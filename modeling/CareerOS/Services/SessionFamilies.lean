/-
This file is the life of the session families of a vault over any interleaving of
logins, refreshes, logouts and maintenance. A refresh is not one step: it looks up
its account, tries to rotate, and when that fails inspects the family and revokes
it, and anything may happen between these statements.

What a statement of most of the operations can do to the live rows is said once:
it keeps, revokes or drops them and leaves the accounts.
-/

import CareerOS.Career.Maintenance
import CareerOS.Library.Machine

namespace CareerOS

open SessionDigests

/-! ### The service -/

/-- How a refresh request ended. -/
inductive RefreshEnding
  /-- The token does not decode any more. -/
  | notDecoded
  /-- Its account is unknown or its vault is not ready. -/
  | notReady
  | rotated
  /-- The family was inspected, with its expiry if it had a row, and left alone. -/
  | leftAlone (expiresAt : Option Nat)
  | revoked
  deriving DecidableEq

/-- A refresh request that has ended. -/
structure Presentation where
  token : RefreshToken
  now : Nat
  /-- The token had been consumed before the request came. -/
  replay : Bool
  ending : RefreshEnding
  deriving DecidableEq

/-- The statement a refresh request runs next. -/
inductive RefreshPhase
  | update
  | inspect
  | revoke
  deriving DecidableEq

/-- A refresh request between two of its statements. -/
structure PendingRefresh where
  token : RefreshToken
  userId : Nat
  now : Nat
  replay : Bool
  phase : RefreshPhase
  deriving DecidableEq

/-- The tables, with what has been handed out and what is under way. -/
structure SessionState where
  tables : AuthTables
  /-- The identifiers drawn for families and for tokens. -/
  families : List String
  jtis : List String
  /-- The tokens returned to a client, and those a refresh has replaced. -/
  issued : List RefreshToken
  consumed : List RefreshToken
  pending : List PendingRefresh
  presented : List Presentation
  deriving DecidableEq

/-- What can happen to the sessions of a vault. -/
inductive SessionAction
  | register (userId : Nat) (username : String)
  | login (userId now issuedAt : Nat) (sid jti : String)
  | refresh (token : RefreshToken) (now : Nat)
  | refreshUpdate (request : PendingRefresh) (issuedAt : Nat) (jti : String)
  | refreshInspect (request : PendingRefresh)
  | refreshRevoke (request : PendingRefresh)
  | refreshFails (request : PendingRefresh)
  | logout (refreshToken : Option RefreshToken) (accessToken : Option (String × String))
      (now : Nat)
  | maintenanceAccess (userId : Nat) (seen : LifecycleState) (now issuedAt : Nat)
      (sid jti : String)
  | beginMaintenance (userId : Nat) (sid : String) (state : LifecycleState)
      (tokenPurpose : AccessPurpose) (fingerprint : Option String) (now : Nat)
  | clearMaintenance (userId : Nat) (expectedState : LifecycleState)
  | finishErasure (userId : Nat)
  | finishRestore (userId now : Nat)
  | finishReset (userId : Nat) (sid : String) (now : Nat)

/-- The refusals of an action. -/
inductive SessionRefusal
  | auth (error : AuthError)
  /-- The random identifiers of the action had been drawn before, or the request or the
  token it is about does not exist. -/
  | impossible

/-- Keep the refusal of an operation. -/
def authorized {Value : Type} (outcome : Except AuthError Value) :
    Except SessionRefusal Value := outcome.mapError .auth

/-- The action can happen. -/
def possible (condition : Prop) [Decidable condition] : Except SessionRefusal Unit :=
  refuseWhen (¬condition) .impossible

theorem authorized_ok {Value : Type} {outcome : Except AuthError Value} {value : Value} :
    authorized outcome = .ok value ↔ outcome = .ok value := mapError_ok_iff

theorem possible_ok {condition : Prop} [Decidable condition] {done : Unit} :
    possible condition = .ok done ↔ condition := by
  unfold possible
  rw [refuseWhen_ok_iff, not_not]

/-- The state with other tables. -/
def SessionState.withTables (state : SessionState) (tables : AuthTables) : SessionState :=
  { state with tables := tables }

/-- The identifiers of an action are drawn. -/
def SessionState.draw (state : SessionState) (sid jti : String) : SessionState :=
  { state with families := sid :: state.families, jtis := jti :: state.jtis }

/-- A request ends. -/
def SessionState.finish (state : SessionState) (request : PendingRefresh)
    (ending : RefreshEnding) : SessionState :=
  { state with
    pending := state.pending.erase request
    presented := ⟨request.token, request.now, request.replay, ending⟩ :: state.presented }

/-- A request goes on to its next statement. -/
def SessionState.proceed (state : SessionState) (request : PendingRefresh)
    (phase : RefreshPhase) : SessionState :=
  { state with pending := { request with phase := phase } :: state.pending.erase request }

section

variable [SessionDigests]

/-- The first statements of `rotate_refresh_session`. -/
def lookupRefresh (state : SessionState) (token : RefreshToken) (now : Nat) : SessionState :=
  let replay := decide (token ∈ state.consumed)
  let ended (ending : RefreshEnding) : SessionState :=
    { state with presented := ⟨token, now, replay, ending⟩ :: state.presented }
  if ¬token.decodes now then ended .notDecoded
  else
    match state.tables.named token.sub with
    | none => ended .notReady
    | some user =>
      if user.lifecycleState ≠ .ready then ended .notReady
      else { state with pending := ⟨token, user.id, now, replay, .update⟩ :: state.pending }

/-- The state after the `UPDATE` of a refresh. -/
def refreshUpdated (state : SessionState) (request : PendingRefresh) (jti : String) :
    Option (AuthTables × RefreshToken) → SessionState
  | none => state.proceed request .inspect
  | some (tables, next) =>
    { (state.finish request .rotated) with
      tables := tables
      jtis := jti :: state.jtis
      issued := next :: state.issued
      consumed := request.token :: state.consumed }

/-- The state after a refresh has inspected the family it could not rotate. -/
def refreshInspected (state : SessionState) (request : PendingRefresh) : SessionState :=
  match state.tables.family request.token.sid with
  | none => state.finish request (.leftAlone none)
  | some existing =>
    if isReplay request.token request.userId request.now existing then
      state.proceed request .revoke
    else state.finish request (.leftAlone (some existing.expiresAt))

/-- One step of the service. -/
def sessionStep (state : SessionState) : SessionAction → Except SessionRefusal SessionState
  | .register userId username => do
    possible (userId ∉ state.tables.users.map VaultUser.id ∧
      username ∉ state.tables.users.map VaultUser.username)
    .ok (state.withTables { state.tables with
      users := state.tables.users ++ [⟨userId, username, .ready, none⟩] })
  | .login userId now issuedAt sid jti => do
    possible (sid ∉ state.families ∧ jti ∉ state.jtis)
    let (tables, token) ← authorized (issueAuthSession state.tables userId now issuedAt sid jti)
    .ok { (state.draw sid jti).withTables tables with issued := token :: state.issued }
  | .refresh token now => do
    possible (token ∈ state.issued)
    .ok (lookupRefresh state token now)
  | .refreshUpdate request issuedAt jti => do
    possible (request ∈ state.pending ∧ request.phase = .update ∧ jti ∉ state.jtis)
    let updated ← authorized (rotateUpdate state.tables request.token request.userId request.now
      issuedAt jti)
    .ok (refreshUpdated state request jti updated)
  | .refreshInspect request => do
    possible (request ∈ state.pending ∧ request.phase = .inspect)
    .ok (refreshInspected state request)
  | .refreshRevoke request => do
    possible (request ∈ state.pending ∧ request.phase = .revoke)
    let tables ← authorized (state.tables.write (revokeFamily state.tables.sessions.rows
      request.token.sid request.userId request.now))
    .ok ((state.finish request .revoked).withTables tables)
  | .refreshFails request => do
    possible (request ∈ state.pending)
    .ok { state with pending := state.pending.erase request }
  | .logout refreshToken accessToken now => do
    let tables ← authorized (revokePresentedSessions state.tables refreshToken accessToken now)
    .ok (state.withTables tables)
  | .maintenanceAccess userId seen now issuedAt sid jti => do
    possible (sid ∉ state.families ∧ jti ∉ state.jtis)
    match state.tables.user userId with
    | none => .error .impossible
    | some user =>
      let tables ← authorized (issueMaintenanceAccess state.tables
        { user with lifecycleState := seen } now issuedAt sid jti)
      .ok ((state.draw sid jti).withTables tables)
  | .beginMaintenance userId sid lifecycle tokenPurpose fingerprint now => do
    let (tables, _) ← authorized (beginVaultMaintenance state.tables userId sid lifecycle
      tokenPurpose fingerprint now)
    .ok (state.withTables tables)
  | .clearMaintenance userId expectedState => do
    let tables ← authorized (clearVaultMaintenance state.tables userId expectedState)
    .ok (state.withTables tables)
  | .finishErasure userId => do
    let tables ← authorized (removeAuthSessionsAfterCleanup state.tables userId)
    .ok (state.withTables tables)
  | .finishRestore userId now => do
    let tables ← authorized (finishRestore state.tables userId now)
    .ok (state.withTables tables)
  | .finishReset userId sid now => do
    let tables ← authorized (finishReset state.tables userId sid now)
    .ok (state.withTables tables)

/-- A vault nobody has an account of. -/
def emptySessions : SessionState where
  tables := ⟨[], ⟨[], by decide⟩⟩
  families := []
  jtis := []
  issued := []
  consumed := []
  pending := []
  presented := []

/-- The sessions of a vault. -/
def sessionMachine : Machine SessionState SessionAction SessionRefusal where
  initial := fun state => state = emptySessions
  step := sessionStep

end

/-! ### What a statement does to the live rows -/

/-- A live row was there before, of the same family and account and with the same digest. -/
def Survives (before : List AuthSession) (row : AuthSession) : Prop :=
  ∃ old ∈ before, old.revokedAt = none ∧ old.id = row.id ∧ old.userId = row.userId ∧
    old.refreshJtiDigest = row.refreshJtiDigest

/-- Every live row was there before. -/
def LiveKept (before after : List AuthSession) : Prop :=
  ∀ row ∈ after, row.revokedAt = none → Survives before row

theorem LiveKept.refl (rows : List AuthSession) : LiveKept rows rows :=
  fun row member live => ⟨row, member, live, rfl, rfl, rfl⟩

theorem LiveKept.trans {first second third : List AuthSession} (earlier : LiveKept first second)
    (later : LiveKept second third) : LiveKept first third := by
  intro row member live
  obtain ⟨middle, middleMember, middleLive, id, user, digest⟩ := later row member live
  obtain ⟨old, oldMember, oldLive, oldId, oldUser, oldDigest⟩ :=
    earlier middle middleMember middleLive
  exact ⟨old, oldMember, oldLive, oldId.trans id, oldUser.trans user, oldDigest.trans digest⟩

theorem LiveKept.of_subset {before after : List AuthSession} (subset : after ⊆ before) :
    LiveKept before after :=
  fun row member live => ⟨row, subset member, live, rfl, rfl, rfl⟩

/-- A change of rows that neither revives one nor touches what a live one is known by. -/
theorem LiveKept.map {rows : List AuthSession} {change : AuthSession → AuthSession}
    (keeps : ∀ row, (change row).revokedAt = none → row.revokedAt = none ∧
      (change row).id = row.id ∧ (change row).userId = row.userId ∧
        (change row).refreshJtiDigest = row.refreshJtiDigest) :
    LiveKept rows (rows.map change) := by
  intro row member live
  obtain ⟨old, inside, rfl⟩ := List.mem_map.mp member
  obtain ⟨oldLive, id, user, digest⟩ := keeps old live
  exact ⟨old, inside, oldLive, id.symm, user.symm, digest.symm⟩

theorem revokeFamily_kept (rows : List AuthSession) (sid : String) (userId now : Nat) :
    LiveKept rows (revokeFamily rows sid userId now) := by
  refine LiveKept.map fun row live => ?_
  split at live
  · cases live
  · rename_i other
    rw [if_neg other]
    exact ⟨live, rfl, rfl, rfl⟩

theorem revokeOthers_kept (rows : List AuthSession) (userId : Nat) (sid : String) (now : Nat) :
    LiveKept rows (revokeOthers rows userId sid now) := by
  refine LiveKept.map fun row live => ?_
  split at live
  · cases live
  · rename_i other
    rw [if_neg other]
    exact ⟨live, rfl, rfl, rfl⟩

variable {userId : Nat} {rows after : List AuthSession} {now : Nat} {sid : String}

theorem beginLiveMaintenancePending_kept
    (begun : beginLiveMaintenancePending rows userId sid now = .ok after) :
    LiveKept rows after := by
  unfold beginLiveMaintenancePending at begun
  split at begun
  · cases begun
  · simp only [bind_ok_iff, Except.ok.injEq] at begun
    obtain ⟨_, -, rfl⟩ := begun
    exact revokeOthers_kept _ _ _ _

section

variable [SessionDigests]

theorem revokeBinding_kept (users : List VaultUser) (now : Nat) (rows : List AuthSession)
    (binding : String × String) : LiveKept rows (revokeBinding users now rows binding) := by
  unfold revokeBinding
  split
  · exact LiveKept.refl rows
  split
  · exact LiveKept.of_subset List.filter_sublist.subset
  · exact revokeFamily_kept _ _ _ _

theorem revokeBindings_kept (users : List VaultUser) (now : Nat)
    (bindings : List (String × String)) : ∀ rows : List AuthSession,
      LiveKept rows (bindings.foldl (revokeBinding users now) rows) := by
  induction bindings with
  | nil => exact LiveKept.refl
  | cons binding rest inductionHypothesis =>
    intro rows
    exact (revokeBinding_kept users now rows binding).trans (inductionHypothesis _)

theorem beginErasurePending_kept
    (begun : beginErasurePending rows userId sid now = .ok after) :
    LiveKept rows after := by
  unfold beginErasurePending at begun
  split at begun
  · cases begun
  · simp only [bind_ok_iff, Except.ok.injEq] at begun
    obtain ⟨_, -, rfl⟩ := begun
    refine (revokeOthers_kept _ _ _ _).trans (LiveKept.map fun row live => ?_)
    split at live
    · cases live
    · rename_i other
      rw [if_neg other]
      exact ⟨live, rfl, rfl, rfl⟩

theorem beginPending_kept {state : LifecycleState}
    (begun : beginPending rows userId sid state now = .ok after) : LiveKept rows after := by
  unfold beginPending at begun
  split at begun
  · exact beginErasurePending_kept begun
  · exact beginLiveMaintenancePending_kept begun

end

theorem availableSessionSlot_kept (rows : List AuthSession) (userId now : Nat) :
    LiveKept rows (availableSessionSlot rows userId now).1 := by
  unfold availableSessionSlot
  dsimp only
  split
  · exact LiveKept.of_subset List.filter_sublist.subset
  · exact LiveKept.of_subset (List.filter_sublist.trans List.filter_sublist).subset
  · exact LiveKept.of_subset List.filter_sublist.subset

/-! ### What an operation does to the accounts -/

/-- The id and the name of every account. -/
def accounts (users : List VaultUser) : List (Nat × String) :=
  users.map fun user => (user.id, user.username)

theorem accounts_setLifecycle (users : List VaultUser) (userId : Nat) (state : LifecycleState)
    (fingerprint : Option String) :
    accounts (setLifecycle users userId state fingerprint) = accounts users := by
  unfold accounts setLifecycle
  rw [List.map_map]
  refine List.map_congr_left fun user _ => ?_
  by_cases same : user.id = userId
  · simp only [Function.comp_apply, if_pos same]
  · simp only [Function.comp_apply, if_neg same]

/-- The accounts stay, and every live row was there before. -/
structure TablesKept (before after : AuthTables) : Prop where
  accounts : accounts after.users = accounts before.users
  live : LiveKept before.sessions.rows after.sessions.rows

theorem TablesKept.of_write {before after : AuthTables} {rows : List AuthSession}
    (kept : LiveKept before.sessions.rows rows) (written : before.write rows = .ok after) :
    TablesKept before after := by
  obtain ⟨users, sessions⟩ := write_ok written
  exact ⟨congrArg _ users, sessions ▸ kept⟩

theorem TablesKept.setLifecycle {before after : AuthTables} (kept : TablesKept before after)
    (userId : Nat) (state : LifecycleState) (fingerprint : Option String) :
    TablesKept before { after with
      users := CareerOS.setLifecycle after.users userId state fingerprint } :=
  ⟨(accounts_setLifecycle _ _ _ _).trans kept.accounts, kept.live⟩

variable {tables after : AuthTables}

theorem clearVaultMaintenance_kept {expectedState : LifecycleState}
    (cleared : clearVaultMaintenance tables userId expectedState = .ok after) :
    TablesKept tables after := by
  have same : TablesKept tables tables := ⟨rfl, LiveKept.refl _⟩
  simp only [clearVaultMaintenance, bind_ok_iff] at cleared
  obtain ⟨_, -, _, -, cleared⟩ := cleared
  split at cleared
  · cases cleared
  split at cleared
  · cases cleared
    exact same.setLifecycle _ _ _
  · obtain ⟨_, -, cleared⟩ := bind_ok_iff.mp cleared
    cases cleared
    exact same

theorem removeAuthSessionsAfterCleanup_kept
    (removed : removeAuthSessionsAfterCleanup tables userId = .ok after) :
    TablesKept tables after := by
  unfold removeAuthSessionsAfterCleanup at removed
  split at removed
  · cases removed
  · simp only [bind_ok_iff, Except.ok.injEq] at removed
    obtain ⟨middle, written, rfl⟩ := removed
    exact (TablesKept.of_write (LiveKept.of_subset List.filter_sublist.subset) written).setLifecycle
      _ _ _

theorem finishRestore_kept {userId now : Nat}
    (finished : finishRestore tables userId now = .ok after) : TablesKept tables after := by
  unfold finishRestore at finished
  split at finished
  · cases finished
  · simp only [bind_ok_iff, Except.ok.injEq] at finished
    obtain ⟨middle, written, rfl⟩ := finished
    refine (TablesKept.of_write (LiveKept.map fun row live => ?_) written).setLifecycle _ _ _
    split at live
    · cases live
    · rename_i other
      rw [if_neg other]
      exact ⟨live, rfl, rfl, rfl⟩

section

variable [SessionDigests]

theorem finishReset_kept
    (finished : finishReset tables userId sid now = .ok after) : TablesKept tables after := by
  simp only [finishReset, bind_ok_iff] at finished
  obtain ⟨rows, begun, middle, written, cleared⟩ := finished
  have first := TablesKept.of_write (beginLiveMaintenancePending_kept begun) written
  have second := clearVaultMaintenance_kept cleared
  exact ⟨second.accounts.trans first.accounts, first.live.trans second.live⟩

theorem beginVaultMaintenance_kept {tables : AuthTables}
    {state : LifecycleState} {tokenPurpose : AccessPurpose} {fingerprint : Option String}
    {result : AuthTables × Bool}
    (begun : beginVaultMaintenance tables userId sid state tokenPurpose fingerprint now =
      .ok result) : TablesKept tables result.1 := by
  simp only [beginVaultMaintenance, bind_ok_iff] at begun
  obtain ⟨_, -, _, -, _, -, begun⟩ := begun
  split at begun
  · cases begun
  · simp only [beginForUser, bind_ok_iff, Except.ok.injEq] at begun
    obtain ⟨_, -, _, -, _, -, rows, pending, middle, written, rfl⟩ := begun
    exact (TablesKept.of_write (beginPending_kept pending) written).setLifecycle _ _ _

theorem revokePresentedSessions_kept
    {refreshToken : Option RefreshToken} {accessToken : Option (String × String)}
    (revoked : revokePresentedSessions tables refreshToken accessToken now = .ok after) :
    TablesKept tables after :=
  TablesKept.of_write (revokeBindings_kept _ _ _ _) revoked

end

end CareerOS
