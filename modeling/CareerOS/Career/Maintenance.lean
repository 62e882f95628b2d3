/-
This file is the guard an account puts on its vault before something destructive
is done to it: a reset, a restore or an erasure. The guard is a column of the
account; setting it takes the session the request came with and revokes every
other one, and only the operation that set it clears it.
-/

import CareerOS.Services.AuthSessions

namespace CareerOS

/-- The purposes of an access token. -/
inductive AccessPurpose
  | session
  | vaultMaintenance
  deriving DecidableEq

/-- The rows with every live session of a user but one revoked. -/
def revokeOthers (rows : List AuthSession) (userId : Nat) (sid : String) (now : Nat) :
    List AuthSession :=
  rows.map fun row =>
    if row.userId = userId ∧ row.id ≠ sid ∧ row.revokedAt = none then
      { row with revokedAt := some now, updatedAt := now }
    else row

section

variable [SessionDigests]

/-- `_begin_erasure_pending`. -/
def beginErasurePending (rows : List AuthSession) (userId : Nat) (sid : String) (now : Nat) :
    Except AuthError (List AuthSession) :=
  match rows.find? fun row => row.userId = userId ∧ row.id = sid with
  | none => .error (.conflict "The erasure authority is no longer valid")
  | some current => do
    refuseWhen ((current.revokedAt ≠ none ∧ ¬current.isErasurePending) ∨ current.expiresAt ≤ now)
      (.conflict "The erasure authority is no longer valid")
    .ok ((revokeOthers rows userId sid now).map fun row =>
      if row.id = sid then
        { row with
          refreshJtiDigest := SessionDigests.erasurePendingDigest sid
          revokedAt := some (row.revokedAt.getD now)
          updatedAt := now }
      else row)

/-- `_begin_live_maintenance_pending`. -/
def beginLiveMaintenancePending (rows : List AuthSession) (userId : Nat) (sid : String)
    (now : Nat) : Except AuthError (List AuthSession) :=
  match rows.find? fun row => row.userId = userId ∧ row.id = sid with
  | none => .error (.conflict "The vault maintenance authority is no longer valid")
  | some current => do
    refuseWhen (¬current.isLive now)
      (.conflict "The vault maintenance authority is no longer valid")
    .ok (revokeOthers rows userId sid now)

end

/-- A fingerprint of an archive: 64 hexadecimal digits. -/
def isFingerprint (text : String) : Prop :=
  text.length = 64 ∧ ∀ letter ∈ text.toList, letter ∈ "0123456789abcdef".toList

instance (text : String) : Decidable (isFingerprint text) := by
  unfold isFingerprint
  infer_instance

/-- The fingerprint a maintenance state asks for. -/
def checkFingerprint (state : LifecycleState) (fingerprint : Option String) :
    Except AuthError Unit :=
  match state, fingerprint with
  | .restorePending, none =>
    .error (.deletion "Restore maintenance requires an archive fingerprint")
  | .restorePending, some text =>
    refuseWhen (¬isFingerprint text)
      (.deletion "Restore maintenance requires an archive fingerprint")
  | _, some _ => .error (.deletion "Only restore maintenance accepts a fingerprint")
  | _, none => .ok ()

/-- The states a maintenance state may follow; an erasure supersedes the others. -/
def allowedCurrentStates (state : LifecycleState) : List LifecycleState :=
  if state = .erasurePending then [.ready, state, .resetPending, .restorePending]
  else [.ready, state]

/-- The purpose of the token that may ask for maintenance. -/
def expectedPurpose (user : VaultUser) : AccessPurpose :=
  if user.lifecycleState = .ready then .session else .vaultMaintenance

/-- The row of a user with another maintenance state. -/
def setLifecycle (users : List VaultUser) (userId : Nat) (state : LifecycleState)
    (fingerprint : Option String) : List VaultUser :=
  users.map fun user =>
    if user.id = userId then
      { user with lifecycleState := state, maintenanceFingerprint := fingerprint }
    else user

section

variable [SessionDigests]

/-- The sessions a maintenance state leaves. -/
def beginPending (rows : List AuthSession) (userId : Nat) (sid : String) (state : LifecycleState)
    (now : Nat) : Except AuthError (List AuthSession) :=
  if state = .erasurePending then beginErasurePending rows userId sid now
  else beginLiveMaintenancePending rows userId sid now

/-- The transaction of `begin_vault_maintenance` on the row of its user. -/
def beginForUser (tables : AuthTables) (user : VaultUser) (sid : String) (state : LifecycleState)
    (tokenPurpose : AccessPurpose) (fingerprint : Option String) (now : Nat) :
    Except AuthError (AuthTables × Bool) := do
  refuseWhen (user.lifecycleState ∉ allowedCurrentStates state)
    (.conflict "Another vault maintenance operation is pending")
  refuseWhen (tokenPurpose ≠ expectedPurpose user)
    (.conflict "The vault maintenance authority is stale")
  refuseWhen (state = .restorePending ∧ user.lifecycleState = .restorePending ∧
      user.maintenanceFingerprint ≠ fingerprint)
    (.conflict "Retry restore with the same verified archive")
  let rows ← beginPending tables.sessions.rows user.id sid state now
  let result ← tables.write rows
  .ok ({ result with users := setLifecycle result.users user.id state fingerprint },
    user.lifecycleState = .ready)

/-- `begin_vault_maintenance`; returns whether the vault was ready. -/
def beginVaultMaintenance (tables : AuthTables) (userId : Nat) (sid : String)
    (state : LifecycleState) (tokenPurpose : AccessPurpose) (fingerprint : Option String)
    (now : Nat) : Except AuthError (AuthTables × Bool) := do
  refuseWhen (state = .ready) (.deletion "Invalid vault maintenance state")
  checkFingerprint state fingerprint
  refuseWhen (userId = 0) (.deletion "Invalid user identifier for vault deletion")
  match tables.user userId with
  | none => .error (.conflict "The local account no longer exists")
  | some user => beginForUser tables user sid state tokenPurpose fingerprint now

end

/-- `clear_vault_maintenance`. -/
def clearVaultMaintenance (tables : AuthTables) (userId : Nat) (expectedState : LifecycleState) :
    Except AuthError AuthTables := do
  refuseWhen (expectedState = .ready ∨ expectedState = .erasurePending)
    (.deletion "Invalid clearable vault maintenance state")
  refuseWhen (userId = 0) (.deletion "Invalid user identifier for vault deletion")
  match tables.user userId with
  | none => .error (.deletion "The local account no longer exists")
  | some user =>
    if user.lifecycleState = expectedState then
      .ok { tables with users := setLifecycle tables.users userId .ready none }
    else do
      refuseWhen (user.lifecycleState ≠ .ready)
        (.conflict "A different vault maintenance operation is pending")
      .ok tables

/-- The transaction of `_remove_auth_sessions_after_cleanup`. -/
def removeAuthSessionsAfterCleanup (tables : AuthTables) (userId : Nat) :
    Except AuthError AuthTables :=
  match tables.user userId with
  | none => .error (.deletion "The local account no longer exists")
  | some _ => do
    let result ← tables.write (tables.sessions.rows.filter fun row => row.userId ≠ userId)
    .ok { result with users := setLifecycle result.users userId .ready none }

/-- What a restore does to the sessions and the guard of its account when it commits. -/
def finishRestore (tables : AuthTables) (userId now : Nat) : Except AuthError AuthTables :=
  match tables.user userId with
  | none => .error (.deletion "Restore account no longer exists")
  | some _ => do
    let result ← tables.write (tables.sessions.rows.map fun row =>
      if row.userId = userId ∧ row.revokedAt = none then
        { row with revokedAt := some now }
      else row)
    .ok { result with users := setLifecycle result.users userId .ready none }

/-- The last transaction of a reset: it keeps the session of the request and clears the
guard. -/
def finishReset [SessionDigests] (tables : AuthTables) (userId : Nat) (sid : String)
    (now : Nat) : Except AuthError AuthTables := do
  let rows ← beginLiveMaintenancePending tables.sessions.rows userId sid now
  let result ← tables.write rows
  clearVaultMaintenance result userId .resetPending

end CareerOS
