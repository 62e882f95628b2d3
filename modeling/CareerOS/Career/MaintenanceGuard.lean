/-
This file is what the maintenance guard promises over every run of the sessions of a
vault. A guard carries the fingerprint of an archive just when a restore is pending, and
while anything is pending at most one family of the account is left, whatever logins and
refreshes were under way.

An erasure leaves no family at all. That takes that access for maintenance is issued for
the state the account is in: the state is read before the rows, and not again.
-/

import CareerOS.Services.SessionRotation

namespace CareerOS

/-! ### The families of an account -/

/-- Every row of an account that is not revoked was there before, of the same family. -/
def FamiliesKept (before after : List AuthSession) (userId : Nat) : Prop :=
  ∀ row ∈ after, row.userId = userId → row.revokedAt = none →
    ∃ old ∈ before, old.userId = userId ∧ old.revokedAt = none ∧ old.id = row.id

/-- The rows of an account that are not revoked are of the one family, if of any. -/
def OnlyFamily (rows : List AuthSession) (userId : Nat) (family : Option String) : Prop :=
  ∀ row ∈ rows, row.userId = userId → row.revokedAt = none → family = some row.id

/-- One family at most is left of an account, and none if its erasure is pending. -/
def Reduced (rows : List AuthSession) (userId : Nat) (state : LifecycleState) : Prop :=
  ∃ family, OnlyFamily rows userId family ∧ (state = .erasurePending → family = none)

variable {before after : List AuthSession} {userId : Nat} {family : Option String}
  {sid : String} {state : LifecycleState}

theorem LiveKept.families (kept : LiveKept before after) (userId : Nat) :
    FamiliesKept before after userId := by
  intro row member own live
  obtain ⟨old, inside, oldLive, id, user, -⟩ := kept row member live
  exact ⟨old, inside, user.trans own, oldLive, id⟩

theorem OnlyFamily.kept (only : OnlyFamily before userId family)
    (kept : FamiliesKept before after userId) : OnlyFamily after userId family := by
  intro row member own live
  obtain ⟨old, inside, oldOwn, oldLive, id⟩ := kept row member own live
  exact id ▸ only old inside oldOwn oldLive

theorem onlyFamily_revokeOthers (rows : List AuthSession) (userId : Nat) (sid : String)
    (now : Nat) : OnlyFamily (revokeOthers rows userId sid now) userId (some sid) := by
  intro row member own live
  obtain ⟨old, -, rfl⟩ := List.mem_map.mp member
  split at own <;> rename_i other
  · rw [if_pos other] at live
    cases live
  · rw [if_neg other] at live ⊢
    by_contra different
    exact other ⟨own, fun same => different (congrArg some same.symm), live⟩

theorem beginPending_reduced [SessionDigests] {now : Nat}
    (begun : beginPending before userId sid state now = .ok after) :
    Reduced after userId state := by
  have others := onlyFamily_revokeOthers before userId sid now
  unfold beginPending at begun
  split at begun
  · unfold beginErasurePending at begun
    split at begun
    · cases begun
    obtain ⟨_, -, begun⟩ := bind_ok_iff.mp begun
    cases begun
    refine ⟨none, fun row member own live => ?_, fun _ => rfl⟩
    obtain ⟨old, inside, rfl⟩ := List.mem_map.mp member
    split at own <;> rename_i current
    · rw [if_pos current] at live
      cases live
    · rw [if_neg current] at live
      exact absurd (Option.some.inj (others old inside own live)).symm current
  · rename_i other
    unfold beginLiveMaintenancePending at begun
    split at begun
    · cases begun
    obtain ⟨_, -, begun⟩ := bind_ok_iff.mp begun
    cases begun
    exact ⟨some sid, others, fun erased => absurd erased other⟩

/-! ### What a step does to the guards -/

/-- What a step does to the accounts and to their families. -/
inductive GuardStep (action : SessionAction) (tables next : AuthTables) : Prop
  | keeps (added : List VaultUser) (users : next.users = tables.users ++ added)
    (ready : ∀ user ∈ added, user.lifecycleState = .ready ∧ user.maintenanceFingerprint = none)
    (kept : ∀ other, FamiliesKept tables.sessions.rows next.sessions.rows other)
  /-- The rows of a ready account may be of new families. -/
  | issues (user : VaultUser) (member : user ∈ tables.users)
    (ready : user.lifecycleState = .ready) (users : next.users = tables.users)
    (kept : ∀ other ≠ user.id, FamiliesKept tables.sessions.rows next.sessions.rows other)
  /-- Access for maintenance may replace all rows of its account. -/
  | replaces (userId : Nat) (seen : LifecycleState) (now issuedAt : Nat) (sid jti : String)
    (access : action = .maintenanceAccess userId seen now issuedAt sid jti)
    (users : next.users = tables.users) (reduced : Reduced next.sessions.rows userId seen)
    (kept : ∀ other ≠ userId, FamiliesKept tables.sessions.rows next.sessions.rows other)
  | moves (user : VaultUser) (member : user ∈ tables.users) (state : LifecycleState)
    (fingerprint : Option String)
    (shaped : state = .ready ∧ fingerprint = none ∨
      checkFingerprint state fingerprint = .ok () ∧ Reduced next.sessions.rows user.id state)
    (users : next.users = setLifecycle tables.users user.id state fingerprint)
    (kept : ∀ other, FamiliesKept tables.sessions.rows next.sessions.rows other)

variable {tables next : AuthTables} {action : SessionAction} {user : VaultUser}

/-- A step that writes no account. -/
theorem GuardStep.same (users : next.users = tables.users)
    (kept : ∀ other, FamiliesKept tables.sessions.rows next.sessions.rows other) :
    GuardStep action tables next :=
  .keeps [] (users.trans (List.append_nil _).symm)
    (fun _ inside => absurd inside List.not_mem_nil) kept

theorem GuardStep.of_kept (kept : TablesKept tables next) (users : next.users = tables.users) :
    GuardStep action tables next :=
  .same users kept.live.families

theorem user_of_find (found : tables.user userId = some user) :
    user ∈ tables.users ∧ user.id = userId := by
  unfold AuthTables.user at found
  have same := List.find?_some found
  exact ⟨List.mem_of_find?_eq_some found, of_decide_eq_true same⟩

/-- An account is ready again. -/
theorem GuardStep.ended (member : user ∈ tables.users)
    (users : next.users = setLifecycle tables.users user.id .ready none)
    (kept : TablesKept tables next) : GuardStep action tables next :=
  .moves user member .ready none (.inl ⟨rfl, rfl⟩) users kept.live.families

theorem guardStep_clear {middle : AuthTables}
    (users : middle.users = tables.users) (kept : TablesKept tables next)
    (cleared : clearVaultMaintenance middle userId state = .ok next) :
    GuardStep action tables next := by
  simp only [clearVaultMaintenance, bind_ok_iff] at cleared
  obtain ⟨_, -, _, -, cleared⟩ := cleared
  split at cleared
  · cases cleared
  rename_i user found
  obtain ⟨member, rfl⟩ := user_of_find found
  split at cleared
  · cases cleared
    exact .ended (users ▸ member) (by rw [← users]) kept
  · obtain ⟨_, -, cleared⟩ := bind_ok_iff.mp cleared
    cases cleared
    exact .of_kept kept users

/-- The look-up of a refresh writes no row. -/
theorem lookupRefresh_eq (state : SessionState) (token : RefreshToken) (now : Nat) :
    ∃ presented pending, lookupRefresh state token now =
      { state with presented := presented, pending := pending } := by
  unfold lookupRefresh
  split
  · exact ⟨_, _, rfl⟩
  split
  · exact ⟨_, _, rfl⟩
  split <;> exact ⟨_, _, rfl⟩

variable [SessionDigests] {now issuedAt : Nat} {jti : String}

theorem guardStep_begin {purpose : AccessPurpose} {fingerprint : Option String}
    {result : AuthTables × Bool}
    (begun : beginVaultMaintenance tables userId sid state purpose fingerprint now = .ok result) :
    GuardStep (.beginMaintenance userId sid state purpose fingerprint now) tables result.1 := by
  have kept := beginVaultMaintenance_kept begun
  simp only [beginVaultMaintenance, bind_ok_iff] at begun
  obtain ⟨_, -, _, shaped, _, -, begun⟩ := begun
  split at begun
  · cases begun
  rename_i user found
  obtain ⟨member, rfl⟩ := user_of_find found
  simp only [beginForUser, bind_ok_iff, Except.ok.injEq] at begun
  obtain ⟨_, -, _, -, _, -, rows, families, middle, written, rfl⟩ := begun
  obtain ⟨users, sessions⟩ := write_ok written
  have reduced : Reduced middle.sessions.rows user.id state := by
    rw [sessions]
    exact beginPending_reduced families
  exact .moves user member state fingerprint (.inr ⟨shaped, reduced⟩) (by rw [users])
    kept.live.families

theorem guardStep_login {result : AuthTables × RefreshToken}
    (issued : issueAuthSession tables userId now issuedAt sid jti = .ok result) :
    GuardStep action tables result.1 := by
  unfold issueAuthSession at issued
  split at issued
  · cases issued
  rename_i user found
  obtain ⟨member, rfl⟩ := user_of_find found
  obtain ⟨_, ready, issued⟩ := bind_ok_iff.mp issued
  obtain ⟨middle, written, issued⟩ := bind_ok_iff.mp issued
  cases issued
  obtain ⟨users, sessions⟩ := write_ok written
  refine .issues user member (not_not.mp (refuseWhen_ok_iff.mp ready)) users fun other foreign => ?_
  rw [sessions]
  intro row inside own live
  rcases List.mem_append.mp inside with old | new
  · exact (availableSessionSlot_kept _ _ _).families other row old own live
  · obtain rfl := List.mem_singleton.mp new
    exact absurd own.symm foreign

theorem guardStep_access {seen : LifecycleState}
    (issued : issueMaintenanceAccess tables { user with lifecycleState := seen } now issuedAt sid
      jti = .ok next) :
    GuardStep (.maintenanceAccess user.id seen now issuedAt sid jti) tables next := by
  unfold issueMaintenanceAccess at issued
  split at issued
  · cases issued
  split at issued
  · obtain ⟨users, sessions⟩ := write_ok issued
    refine .replaces user.id seen now issuedAt sid jti rfl users
      ⟨if seen = .erasurePending then none else some sid, ?_, fun erased => if_pos erased⟩ ?_
    · intro row member own live
      rw [sessions] at member
      rcases List.mem_append.mp member with old | new
      · exact absurd own (of_decide_eq_true (List.mem_filter.mp old).2)
      · obtain rfl := List.mem_singleton.mp new
        split at live <;> rename_i erased
        · cases live
        · rw [if_neg erased, if_neg erased]
          rfl
    · intro other distinct row member own live
      rw [sessions] at member
      rcases List.mem_append.mp member with old | new
      · exact ⟨row, (List.mem_filter.mp old).1, own, live, rfl⟩
      · obtain rfl := List.mem_singleton.mp new
        refine absurd (own.symm.trans ?_) distinct
        split <;> rfl
  · split at issued
    · refine .same (write_ok issued).1 fun other => ?_
      rw [(write_ok issued).2]
      refine (LiveKept.map fun row live => ?_).families other
      split at live <;> rename_i current
      · rw [if_pos current]
        exact ⟨live, rfl, rfl, rfl⟩
      · rw [if_neg current]
        exact ⟨live, rfl, rfl, rfl⟩
    · cases issued
      exact .same rfl (LiveKept.refl _).families

/-- Every step is one of these. -/
theorem guardStep_of_step {state later : SessionState}
    (stepped : sessionStep state action = .ok later) :
    GuardStep action state.tables later.tables := by
  cases action with
  | register userId username =>
    obtain ⟨_, -, stepped⟩ := bind_ok_iff.mp stepped
    cases stepped
    refine .keeps [⟨userId, username, .ready, none⟩] rfl (fun user added => ?_)
      (LiveKept.refl _).families
    obtain rfl := List.mem_singleton.mp added
    exact ⟨rfl, rfl⟩
  | login userId now issuedAt sid jti =>
    simp only [sessionStep, bind_ok_iff, authorized_ok, Except.ok.injEq] at stepped
    obtain ⟨_, -, ⟨tables, token⟩, issued, rfl⟩ := stepped
    exact guardStep_login issued
  | refresh token now =>
    simp only [sessionStep, bind_ok_iff, Except.ok.injEq] at stepped
    obtain ⟨_, -, rfl⟩ := stepped
    obtain ⟨presented, pending, same⟩ := lookupRefresh_eq state token now
    rw [same]
    exact .same rfl (LiveKept.refl _).families
  | refreshUpdate request issuedAt jti =>
    simp only [sessionStep, bind_ok_iff, authorized_ok, Except.ok.injEq] at stepped
    obtain ⟨_, -, updated, rotated, rfl⟩ := stepped
    unfold rotateUpdate at rotated
    split at rotated
    · obtain ⟨tables, written, rotated⟩ := bind_ok_iff.mp rotated
      cases rotated
      refine .same (write_ok written).1 fun other row member own live => ?_
      have inside : row ∈ tables.sessions.rows := member
      rw [(write_ok written).2] at inside
      obtain ⟨old, before, rfl⟩ := List.mem_map.mp inside
      refine ⟨old, before, ?_⟩
      split at own <;> rename_i matching
      · rw [if_pos matching] at live ⊢
        exact ⟨own, live, rfl⟩
      · rw [if_neg matching] at live ⊢
        exact ⟨own, live, rfl⟩
    · cases rotated
      exact .same rfl (LiveKept.refl _).families
  | refreshInspect request =>
    simp only [sessionStep, bind_ok_iff, Except.ok.injEq] at stepped
    obtain ⟨_, -, rfl⟩ := stepped
    have same : (refreshInspected state request).tables = state.tables := by
      unfold refreshInspected
      split
      · rfl
      split <;> rfl
    rw [same]
    exact .same rfl (LiveKept.refl _).families
  | refreshRevoke request =>
    simp only [sessionStep, bind_ok_iff, authorized_ok, Except.ok.injEq] at stepped
    obtain ⟨_, -, tables, written, rfl⟩ := stepped
    exact .of_kept (.of_write (revokeFamily_kept _ _ _ _) written) (write_ok written).1
  | refreshFails request =>
    obtain ⟨_, -, stepped⟩ := bind_ok_iff.mp stepped
    cases stepped
    exact .same rfl (LiveKept.refl _).families
  | logout refreshToken accessToken now =>
    simp only [sessionStep, bind_ok_iff, authorized_ok, Except.ok.injEq] at stepped
    obtain ⟨tables, revoked, rfl⟩ := stepped
    exact .of_kept (revokePresentedSessions_kept revoked) (write_ok revoked).1
  | maintenanceAccess userId seen now issuedAt sid jti =>
    simp only [sessionStep, bind_ok_iff, possible_ok] at stepped
    obtain ⟨_, -, stepped⟩ := stepped
    split at stepped
    · cases stepped
    rename_i user found
    obtain ⟨member, rfl⟩ := user_of_find found
    simp only [bind_ok_iff, authorized_ok, Except.ok.injEq] at stepped
    obtain ⟨tables, issued, rfl⟩ := stepped
    exact guardStep_access issued
  | beginMaintenance userId sid lifecycle tokenPurpose fingerprint now =>
    simp only [sessionStep, bind_ok_iff, authorized_ok, Except.ok.injEq] at stepped
    obtain ⟨⟨tables, wasReady⟩, begun, rfl⟩ := stepped
    exact guardStep_begin begun
  | clearMaintenance userId expectedState =>
    simp only [sessionStep, bind_ok_iff, authorized_ok, Except.ok.injEq] at stepped
    obtain ⟨tables, cleared, rfl⟩ := stepped
    exact guardStep_clear rfl (clearVaultMaintenance_kept cleared) cleared
  | finishErasure userId =>
    simp only [sessionStep, bind_ok_iff, authorized_ok, Except.ok.injEq] at stepped
    obtain ⟨tables, removed, rfl⟩ := stepped
    have kept := removeAuthSessionsAfterCleanup_kept removed
    unfold removeAuthSessionsAfterCleanup at removed
    split at removed
    · cases removed
    rename_i user found
    obtain ⟨member, rfl⟩ := user_of_find found
    obtain ⟨middle, written, removed⟩ := bind_ok_iff.mp removed
    cases removed
    exact .ended member (by rw [← (write_ok written).1]; rfl) kept
  | finishRestore userId now =>
    simp only [sessionStep, bind_ok_iff, authorized_ok, Except.ok.injEq] at stepped
    obtain ⟨tables, finished, rfl⟩ := stepped
    have kept := finishRestore_kept finished
    unfold CareerOS.finishRestore at finished
    split at finished
    · cases finished
    rename_i user found
    obtain ⟨member, rfl⟩ := user_of_find found
    obtain ⟨middle, written, finished⟩ := bind_ok_iff.mp finished
    cases finished
    exact .ended member (by rw [← (write_ok written).1]; rfl) kept
  | finishReset userId sid now =>
    simp only [sessionStep, bind_ok_iff, authorized_ok, Except.ok.injEq] at stepped
    obtain ⟨tables, finished, rfl⟩ := stepped
    have kept := finishReset_kept finished
    simp only [CareerOS.finishReset, bind_ok_iff] at finished
    obtain ⟨rows, -, middle, written, cleared⟩ := finished
    exact guardStep_clear (write_ok written).1 kept cleared

/-! ### Every run -/

/-- What holds of the guard of an account. -/
structure Guarded (current : Prop) (rows : List AuthSession) (user : VaultUser) : Prop where
  archive : user.maintenanceFingerprint ≠ none ↔ user.lifecycleState = .restorePending
  fingerprint : ∀ text ∈ user.maintenanceFingerprint, isFingerprint text
  single : user.lifecycleState ≠ .ready → ∃ family, OnlyFamily rows user.id family
  erased : current → user.lifecycleState = .erasurePending → OnlyFamily rows user.id none

/-- Access for maintenance is issued for the state its account is in. -/
def AccessCurrent (state : SessionState) : SessionAction → Prop
  | .maintenanceAccess userId seen _ _ _ _ =>
    ∀ user ∈ state.tables.users, user.id = userId → user.lifecycleState = seen
  | _ => True

omit [SessionDigests]

variable {current : Prop} {rows : List AuthSession}

theorem guarded_ready (ready : user.lifecycleState = .ready)
    (cleared : user.maintenanceFingerprint = none) : Guarded current rows user where
  archive := by simp [ready, cleared]
  fingerprint := by simp [cleared]
  single := fun pending => absurd ready pending
  erased := by simp [ready]

theorem Guarded.kept (guarded : Guarded current before user)
    (kept : FamiliesKept before after user.id) : Guarded current after user where
  archive := guarded.archive
  fingerprint := guarded.fingerprint
  single := fun pending => (guarded.single pending).imp fun _ only => only.kept kept
  erased := fun strict erased => (guarded.erased strict erased).kept kept

theorem checkFingerprint_ok {fingerprint : Option String}
    (shaped : checkFingerprint state fingerprint = .ok ()) :
    (fingerprint ≠ none ↔ state = .restorePending) ∧ ∀ text ∈ fingerprint, isFingerprint text := by
  cases fingerprint with
  | none => cases state <;> simp_all [checkFingerprint]
  | some text => cases state <;> simp_all [checkFingerprint, refuseWhen]

/-- A step keeps what holds of the guards. -/
theorem GuardStep.guarded (step : GuardStep action tables next)
    (distinct : (tables.users.map VaultUser.id).Nodup)
    (issued : current → ∀ userId seen now issuedAt sid jti,
      action = .maintenanceAccess userId seen now issuedAt sid jti →
        ∀ user ∈ tables.users, user.id = userId → user.lifecycleState = seen)
    (guarded : ∀ user ∈ tables.users, Guarded current tables.sessions.rows user) :
    ∀ user ∈ next.users, Guarded current next.sessions.rows user := by
  intro other inside
  cases step with
  | keeps added users ready kept =>
    rcases List.mem_append.mp (users ▸ inside) with old | new
    · exact (guarded other old).kept (kept other.id)
    · exact guarded_ready (ready other new).1 (ready other new).2
  | issues user member ready users kept =>
    have old := users ▸ inside
    by_cases own : other.id = user.id
    · obtain rfl := List.inj_on_of_nodup_map distinct old member own
      refine guarded_ready ready (by_contra fun archive => ?_)
      have restore := (guarded other member).archive.mp archive
      rw [ready] at restore
      cases restore
    · exact (guarded other old).kept (kept other.id own)
  | replaces userId seen now issuedAt sid jti access users reduced kept =>
    have old := users ▸ inside
    have was := guarded other old
    by_cases own : other.id = userId
    · obtain ⟨family, only, erased⟩ := own ▸ reduced
      refine ⟨was.archive, was.fingerprint, fun _ => ⟨family, only⟩, fun strict pending => ?_⟩
      have same := issued strict userId seen now issuedAt sid jti access other old own
      exact erased (same.symm.trans pending) ▸ only
    · exact was.kept (kept other.id own)
  | moves user member state fingerprint shaped users kept =>
    rw [users] at inside
    obtain ⟨old, oldMember, rfl⟩ := List.mem_map.mp inside
    split
    · rename_i own
      rcases shaped with ⟨rfl, rfl⟩ | ⟨shaped, family, only, erased⟩
      · exact guarded_ready rfl rfl
      · obtain ⟨archive, fingerprints⟩ := checkFingerprint_ok shaped
        rw [← own] at only
        exact ⟨archive, fingerprints, fun _ => ⟨family, only⟩,
          fun _ pending => erased pending ▸ only⟩
    · exact (guarded old oldMember).kept (kept old.id)

section

variable [SessionDigests] {state : SessionState}

theorem guarded_run (reached : sessionMachine.ReachableWhen
      (fun before action => current → AccessCurrent before action) state) :
    ∀ user ∈ state.tables.users, Guarded current state.tables.sessions.rows user := by
  have held : SessionInvariant (fun _ => False) state ∧
      ∀ user ∈ state.tables.users, Guarded current state.tables.sessions.rows user := by
    refine reached.invariant (fun state => SessionInvariant (fun _ => False) state ∧
      ∀ user ∈ state.tables.users, Guarded current state.tables.sessions.rows user) ?_ ?_
    · rintro _ rfl
      exact ⟨emptySessions_invariant, by rintro _ ⟨⟩⟩
    · rintro before action later ⟨invariant, guarded⟩ met stepped
      refine ⟨sessionStep_invariant invariant stepped,
        (guardStep_of_step stepped).guarded invariant.userIds ?_ guarded⟩
      rintro strict _ _ _ _ _ _ rfl
      exact met strict
  exact held.2

/-- In every reachable state an account has a fingerprint, which is one, just when a restore is
pending, and one family at most while anything is. In runs that issue access for the state the
account is in, an account whose erasure is pending has no family. -/
theorem maintenance_guarded (reached : sessionMachine.Reachable state) :
    ∀ user ∈ state.tables.users, Guarded (sessionMachine.ReachableWhen AccessCurrent state)
      state.tables.sessions.rows user := by
  intro user member
  have guarded := guarded_run (reached.mono fun _ _ _ (never : False) => never.elim) user member
  refine { guarded with erased := fun strict => ?_ }
  exact (guarded_run (strict.mono fun _ _ met (_ : True) => met) user member).erased trivial

end

section

attribute [local instance] SessionDigests.sample

/-- A login, and the begin of a reset. -/
def resetting : List SessionAction :=
  [.register 1 "ada", .login 1 0 0 "a" "1",
    .beginMaintenance 1 "a" .resetPending .session none 60000000]

theorem maintenance_guarded_resetting :
    ∃ family, OnlyFamily (sessionsAfter resetting).tables.sessions.rows 1 family :=
  (maintenance_guarded (.run (.initial rfl) (rfl : sessionMachine.run emptySessions
    resetting = .ok (sessionsAfter resetting))) ⟨1, "ada", .resetPending, none⟩
      (by decide +kernel)).single (by decide)

end

end CareerOS
