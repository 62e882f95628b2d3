/-
This file is the sessions of the accounts of a vault. A session is a family of
refresh tokens with one row in the database; the row holds the digest of the one
token of the family that can be refreshed. A refresh replaces that digest by the
digest of a new token. A token that comes back after it was replaced was stolen
from somebody, so the whole family is revoked.

The constraints of the table are part of it: a statement whose rows break one of
them fails. An account has at most eight sessions for that reason alone.

Random identifiers and clocks are arguments. A refresh is two transactions, one
that rotates and one that inspects the family it could not rotate; each of the
statements of both is a definition here.
-/

import CareerOS.Library.Dict
import CareerOS.Library.Outcome

namespace CareerOS

/-! ### The tables -/

/-- `vault_lifecycle_state`. -/
inductive LifecycleState
  | ready
  | resetPending
  | restorePending
  | erasurePending
  deriving DecidableEq

/-- A row of `users`, as far as sessions and maintenance read it. -/
structure VaultUser where
  id : Nat
  username : String
  lifecycleState : LifecycleState
  maintenanceFingerprint : Option String
  deriving DecidableEq

/-- A row of `auth_sessions`; times are microseconds. -/
structure AuthSession where
  id : String
  userId : Nat
  slot : Nat
  refreshJtiDigest : String
  expiresAt : Nat
  revokedAt : Option Nat
  createdAt : Nat
  updatedAt : Nat
  deriving DecidableEq

/-- `MAX_ACTIVE_REFRESH_SESSIONS`. -/
def maxActiveRefreshSessions : Nat := 8

/-- The constraints of `auth_sessions`. -/
structure SessionConstraints (rows : List AuthSession) : Prop where
  ids : (rows.map AuthSession.id).Nodup
  slots : (rows.map fun row => (row.userId, row.slot)).Nodup
  digests : (rows.map AuthSession.refreshJtiDigest).Nodup
  bounded : ∀ row ∈ rows, row.slot < maxActiveRefreshSessions

instance (rows : List AuthSession) : Decidable (SessionConstraints rows) :=
  decidable_of_iff ((rows.map AuthSession.id).Nodup ∧
      (rows.map fun row => (row.userId, row.slot)).Nodup ∧
      (rows.map AuthSession.refreshJtiDigest).Nodup ∧
      ∀ row ∈ rows, row.slot < maxActiveRefreshSessions)
    ⟨fun ⟨ids, slots, digests, bounded⟩ => ⟨ids, slots, digests, bounded⟩,
      fun ⟨ids, slots, digests, bounded⟩ => ⟨ids, slots, digests, bounded⟩⟩

/-- The rows of `auth_sessions`, which meet their constraints. -/
structure SessionTable where
  rows : List AuthSession
  valid : SessionConstraints rows
  deriving DecidableEq

/-- The tables that hold who may do what. -/
structure AuthTables where
  users : List VaultUser
  sessions : SessionTable
  deriving DecidableEq

/-- The refusals of the operations on sessions and on vault maintenance. -/
inductive AuthError
  /-- The `IntegrityError` of a constraint. -/
  | integrity
  /-- `VaultMaintenancePendingError`, with its message. -/
  | maintenancePending (detail : String)
  /-- `VaultDeletionError`, with its message. -/
  | deletion (detail : String)
  /-- `VaultMaintenanceConflictError`, with its message. -/
  | conflict (detail : String)
  deriving DecidableEq

/-- The rows a statement leaves, unless they break a constraint. -/
def AuthTables.write (tables : AuthTables) (rows : List AuthSession) :
    Except AuthError AuthTables :=
  if valid : SessionConstraints rows then .ok { tables with sessions := ⟨rows, valid⟩ }
  else .error .integrity

theorem write_ok {tables result : AuthTables} {rows : List AuthSession}
    (written : tables.write rows = .ok result) :
    result.users = tables.users ∧ result.sessions.rows = rows := by
  unfold AuthTables.write at written
  split at written
  · cases written
    exact ⟨rfl, rfl⟩
  · cases written

/-! ### Tokens -/

/-- The digests that are stored in place of a token identifier. -/
class SessionDigests where
  /-- `_jti_digest`. -/
  jtiDigest : String → String
  /-- `erasure_pending_digest`. -/
  erasurePendingDigest : String → String
  /-- No two identifiers of tokens have one SHA-256 digest. -/
  jtiDigest_injective : Function.Injective jtiDigest

open SessionDigests

/-- The claims of a refresh token; the expiry is in seconds. -/
structure RefreshToken where
  sub : String
  sid : String
  jti : String
  exp : Nat
  deriving DecidableEq

/-- `REFRESH_TOKEN_EXPIRE_DAYS`, in microseconds. -/
def refreshLifetime : Nat := 14 * 86400000000

/-- `create_refresh_token`. -/
def createRefreshToken (sub sid jti : String) (issuedAt : Nat) : RefreshToken where
  sub := sub
  sid := sid
  jti := jti
  exp := (issuedAt + refreshLifetime) / 1000000

/-- The `expires_at` of `_token_state`. -/
def RefreshToken.expiresAt (token : RefreshToken) : Nat := token.exp * 1000000

/-- Does `decode_refresh_token` accept the token? -/
def RefreshToken.decodes (token : RefreshToken) (now : Nat) : Prop := now < token.expiresAt

instance (token : RefreshToken) (now : Nat) : Decidable (token.decodes now) := by
  unfold RefreshToken.decodes
  infer_instance

/-! ### Issuing -/

section

variable [SessionDigests]

/-- `is_erasure_pending_session`. -/
def AuthSession.isErasurePending (session : AuthSession) : Prop :=
  session.revokedAt ≠ none ∧ session.refreshJtiDigest = erasurePendingDigest session.id

instance (session : AuthSession) : Decidable session.isErasurePending := by
  unfold AuthSession.isErasurePending
  infer_instance

end

/-- A session is neither revoked nor expired. -/
def AuthSession.isLive (session : AuthSession) (now : Nat) : Prop :=
  session.revokedAt = none ∧ now < session.expiresAt

instance (session : AuthSession) (now : Nat) : Decidable (session.isLive now) := by
  unfold AuthSession.isLive
  infer_instance

/-- The rows and the slot `_available_session_slot` leaves. -/
def availableSessionSlot (rows : List AuthSession) (userId now : Nat) : List AuthSession × Nat :=
  let kept := rows.filter fun row => ¬(row.userId = userId ∧ ¬row.isLive now)
  let active := (kept.filter fun row => row.userId = userId ∧ row.isLive now).insertionSort
    fun first second => toLex (first.createdAt, first.id) ≤ toLex (second.createdAt, second.id)
  match (List.range maxActiveRefreshSessions).find? fun slot => slot ∉ active.map AuthSession.slot,
    active with
  | some slot, _ => (kept, slot)
  | none, oldest :: _ => (kept.filter fun row => row.id ≠ oldest.id, oldest.slot)
  -- eight slots of no session are never all occupied
  | none, [] => (kept, 0)

/-- `.one_or_none()` of the user with an id. -/
def AuthTables.user (tables : AuthTables) (userId : Nat) : Option VaultUser :=
  tables.users.find? fun user => user.id = userId

/-- `.first()` of the user with a name. -/
def AuthTables.named (tables : AuthTables) (username : String) : Option VaultUser :=
  tables.users.find? fun user => user.username = username

section

variable [SessionDigests]

/-- The row of a new family. -/
def newSession (token : RefreshToken) (userId slot now : Nat) : AuthSession where
  id := token.sid
  userId := userId
  slot := slot
  refreshJtiDigest := jtiDigest token.jti
  expiresAt := token.expiresAt
  revokedAt := none
  createdAt := now
  updatedAt := now

/-- One attempt of `issue_auth_session`. -/
def issueAuthSession (tables : AuthTables) (userId now issuedAt : Nat) (sid jti : String) :
    Except AuthError (AuthTables × RefreshToken) :=
  match tables.user userId with
  | none => .error (.maintenancePending
      "Complete pending local-data maintenance before signing in")
  | some user => do
    refuseWhen (user.lifecycleState ≠ .ready) (.maintenancePending
      "Complete pending local-data maintenance before signing in")
    let (kept, slot) := availableSessionSlot tables.sessions.rows user.id now
    let token := createRefreshToken user.username sid jti issuedAt
    let result ← tables.write (kept ++ [newSession token user.id slot now])
    .ok (result, token)

/-- The session `_issue_maintenance_access_locked` reuses. -/
def maintenanceSession (rows : List AuthSession) (userId : Nat) (state : LifecycleState)
    (now : Nat) : Option AuthSession :=
  if state = .erasurePending then
    rows.find? fun row => row.userId = userId ∧ row.isErasurePending
  else rows.find? fun row => row.userId = userId ∧ row.isLive now

/-- `_issue_maintenance_access_locked`, for the lifecycle state its caller has read. Neither
the disposable refresh token nor its identifier leaves the server. -/
def issueMaintenanceAccess (tables : AuthTables) (user : VaultUser) (now issuedAt : Nat)
    (sid jti : String) : Except AuthError AuthTables :=
  if user.lifecycleState = .ready then
    .error (.maintenancePending "The vault has no pending maintenance")
  else
    match maintenanceSession tables.sessions.rows user.id user.lifecycleState now with
    | none =>
      let fresh := newSession (createRefreshToken user.username sid jti issuedAt) user.id 0 now
      let session :=
        if user.lifecycleState = .erasurePending then
          { fresh with refreshJtiDigest := erasurePendingDigest sid, revokedAt := some now }
        else fresh
      tables.write ((tables.sessions.rows.filter fun row => row.userId ≠ user.id) ++ [session])
    | some session =>
      if session.expiresAt ≤ now then
        tables.write (tables.sessions.rows.map fun row =>
          if row.id = session.id then
            { row with
              expiresAt := (createRefreshToken user.username session.id jti issuedAt).expiresAt
              updatedAt := now }
          else row)
      else .ok tables

/-! ### Refreshing -/

/-- The condition of the `UPDATE` that rotates a family. -/
def rotates (token : RefreshToken) (userId now : Nat) (row : AuthSession) : Prop :=
  row.id = token.sid ∧ row.userId = userId ∧ row.refreshJtiDigest = jtiDigest token.jti ∧
    row.isLive now

instance (token : RefreshToken) (userId now : Nat) (row : AuthSession) :
    Decidable (rotates token userId now row) := by
  unfold rotates
  infer_instance

/-- A row whose family goes on with another token. -/
def AuthSession.rotated (session : AuthSession) (token : RefreshToken) (now : Nat) :
    AuthSession :=
  { session with
    refreshJtiDigest := jtiDigest token.jti
    expiresAt := token.expiresAt
    updatedAt := now }

/-- The `UPDATE` of `rotate_refresh_session` and its commit; nothing when no row matched. -/
def rotateUpdate (tables : AuthTables) (token : RefreshToken) (userId now issuedAt : Nat)
    (jti : String) : Except AuthError (Option (AuthTables × RefreshToken)) :=
  if ∃ row ∈ tables.sessions.rows, rotates token userId now row then do
    let next := createRefreshToken token.sub token.sid jti issuedAt
    let result ← tables.write (tables.sessions.rows.map fun row =>
      if rotates token userId now row then row.rotated next now else row)
    .ok (some (result, next))
  else .ok none

/-- The row a refresh that could not rotate inspects. -/
def AuthTables.family (tables : AuthTables) (sid : String) : Option AuthSession :=
  tables.sessions.rows.find? fun row => row.id = sid

/-- The token is an older one of a family that is still live. -/
def isReplay (token : RefreshToken) (userId now : Nat) (existing : AuthSession) : Prop :=
  existing.userId = userId ∧ existing.isLive now ∧
    existing.refreshJtiDigest ≠ jtiDigest token.jti

instance (token : RefreshToken) (userId now : Nat) (existing : AuthSession) :
    Decidable (isReplay token userId now existing) := by
  unfold isReplay
  infer_instance

end

/-- The rows with the live row of a family revoked. -/
def revokeFamily (rows : List AuthSession) (sid : String) (userId now : Nat) :
    List AuthSession :=
  rows.map fun row =>
    if row.id = sid ∧ row.userId = userId ∧ row.revokedAt = none then
      { row with revokedAt := some now, updatedAt := now }
    else row

/-! ### Logging out -/

section

variable [SessionDigests]

/-- What a logout does to one family it names. -/
def revokeBinding (users : List VaultUser) (now : Nat) (rows : List AuthSession)
    (binding : String × String) : List AuthSession :=
  match users.find? fun user => user.username = binding.1 with
  | none => rows
  | some user =>
    if ∃ row ∈ rows, row.id = binding.2 ∧ row.userId = user.id ∧ row.isErasurePending then
      rows.filter fun row => ¬(row.id = binding.2 ∧ row.userId = user.id ∧
        row.refreshJtiDigest = erasurePendingDigest binding.2)
    else revokeFamily rows binding.2 user.id now

/-- `revoke_presented_sessions`, for a refresh token and the subject and family of a valid
access token. -/
def revokePresentedSessions (tables : AuthTables) (refreshToken : Option RefreshToken)
    (accessToken : Option (String × String)) (now : Nat) : Except AuthError AuthTables :=
  let presented := refreshToken.toList.filter fun token => token.decodes now
  let bindings := (presented.map fun token => (token.sub, token.sid)) ++ accessToken.toList
  tables.write (bindings.dedup.foldl (revokeBinding tables.users now) tables.sessions.rows)

end

end CareerOS
