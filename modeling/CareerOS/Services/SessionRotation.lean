/-
This file is what holds of the session families of a vault in every run. A live
row has the digest of a token that nobody has replaced, and a token that replaces
one is new; so the digest of a replaced token never comes back, and neither does
a family that died. A replay that reaches the row of its family therefore ends
the family, whichever of its two transactions the other requests come between.
-/

import CareerOS.Services.SessionFamilies

namespace CareerOS

open SessionDigests

/-! ### The invariant -/

/-- A family that no row of the vault keeps alive. -/
def FamilyDead (state : SessionState) (sid : String) : Prop :=
  sid ∈ state.families ∧ ∀ row ∈ state.tables.sessions.rows, row.id = sid → row.revokedAt ≠ none

/-- A request that reached the row of its family, and found it unexpired if it had one. -/
def Presentation.Conclusive (presentation : Presentation) : Prop :=
  match presentation.ending with
  | .notDecoded | .notReady => False
  | .rotated | .revoked => True
  | .leftAlone expiresAt => ∀ expiry ∈ expiresAt, presentation.now < expiry

/-- A family that died before, or whose row a replay reached. -/
def Doomed (given : String → Prop) (state : SessionState) (sid : String) : Prop :=
  given sid ∨ ∃ presentation ∈ state.presented, presentation.replay = true ∧
    presentation.Conclusive ∧ presentation.token.sid = sid

variable {state next : SessionState}

theorem Doomed.of_presented {given : String → Prop} {sid : String}
    {presentation : Presentation} (doomed : Doomed given next sid)
    (presented : next.presented = presentation :: state.presented) :
    Doomed given state sid ∨ (presentation.replay = true ∧ presentation.Conclusive ∧
      presentation.token.sid = sid) := by
  rcases doomed with before | ⟨other, member, found⟩
  · exact Or.inl (Or.inl before)
  · rw [presented] at member
    rcases List.mem_cons.mp member with rfl | old
    · exact Or.inr found
    · exact Or.inl (Or.inr ⟨other, old, found⟩)

theorem FamilyDead.mono {sid : String} (dead : FamilyDead state sid)
    (families : state.families ⊆ next.families)
    (kept : ∀ row ∈ next.tables.sessions.rows, row.id = sid → row.revokedAt = none →
      Survives state.tables.sessions.rows row) : FamilyDead next sid := by
  refine ⟨families dead.1, fun row member same live => ?_⟩
  obtain ⟨old, oldMember, oldLive, id, -⟩ := kept row member same live
  exact dead.2 old oldMember (id.trans same) oldLive

theorem accounts_ids {first second : AuthTables} (same : accounts first.users = accounts second.users) :
    first.users.map VaultUser.id = second.users.map VaultUser.id := by
  have ids := congrArg (List.map Prod.fst) same
  simpa only [accounts, List.map_map, Function.comp_def] using ids

theorem accounts_usernames {first second : AuthTables}
    (same : accounts first.users = accounts second.users) :
    first.users.map VaultUser.username = second.users.map VaultUser.username := by
  have names := congrArg (List.map Prod.snd) same
  simpa only [accounts, List.map_map, Function.comp_def] using names

/-! ### The constraints of the table -/

variable {rows : List AuthSession}

theorem nodup_slots (table : SessionTable) (userId : Nat)
    (part : rows.Sublist table.rows) (owned : ∀ row ∈ rows, row.userId = userId) :
    (rows.map AuthSession.slot).Nodup := by
  have pairs : (rows.map fun row => (row.userId, row.slot)).Nodup :=
    table.valid.slots.sublist (part.map _)
  have same : (rows.map fun row => (row.userId, row.slot)) =
      (rows.map AuthSession.slot).map fun slot => (userId, slot) := by
    rw [List.map_map]
    exact List.map_congr_left fun row member => congrArg (·, row.slot) (owned row member)
  rw [same] at pairs
  exact pairs.of_map _

theorem length_le_maxActive (table : SessionTable) (userId : Nat)
    (part : rows.Sublist table.rows) (owned : ∀ row ∈ rows, row.userId = userId) :
    rows.length ≤ maxActiveRefreshSessions := by
  have slots := nodup_slots table userId part owned
  have inside : rows.map AuthSession.slot ⊆ List.range maxActiveRefreshSessions := by
    intro slot member
    obtain ⟨row, rowMember, rfl⟩ := List.mem_map.mp member
    exact List.mem_range.mpr (table.valid.bounded row (part.subset rowMember))
  have := (slots.subperm inside).length_le
  rwa [List.length_map, List.length_range] at this

/-! ### What every state keeps -/

section

variable [SessionDigests] {given : String → Prop}

/-- What holds of the sessions of a vault in every reachable state, some families having died
before. -/
structure SessionInvariant (given : String → Prop) (state : SessionState) : Prop where
  userIds : (state.tables.users.map VaultUser.id).Nodup
  usernames : (state.tables.users.map VaultUser.username).Nodup
  drawn : ∀ token ∈ state.issued, token.sid ∈ state.families ∧ token.jti ∈ state.jtis
  apart : ∀ first ∈ state.issued, ∀ second ∈ state.issued, first.jti = second.jti → first = second
  consumed : ∀ token ∈ state.consumed, token ∈ state.issued
  /-- The digest of a live row is that of a token nobody has replaced. -/
  current : ∀ row ∈ state.tables.sessions.rows, row.revokedAt = none → ∃ jti ∈ state.jtis,
    row.refreshJtiDigest = jtiDigest jti ∧ ∀ token ∈ state.consumed, token.jti ≠ jti
  owners : ∀ row ∈ state.tables.sessions.rows, row.revokedAt = none → ∀ token ∈ state.issued,
    token.sid = row.id → (row.userId, token.sub) ∈ accounts state.tables.users
  pending : ∀ request ∈ state.pending, request.token ∈ state.issued ∧
    (request.replay = true → request.token ∈ state.consumed) ∧
    (request.userId, request.token.sub) ∈ accounts state.tables.users
  dead : ∀ sid, Doomed given state sid → FamilyDead state sid

variable {state : SessionState} {tables : AuthTables}

/-- Tables with the same accounts and no new live row keep the invariant. -/
theorem SessionInvariant.withTables (invariant : SessionInvariant given state)
    (kept : TablesKept state.tables tables) :
    SessionInvariant given (state.withTables tables) where
  userIds := (accounts_ids kept.accounts) ▸ invariant.userIds
  usernames := (accounts_usernames kept.accounts) ▸ invariant.usernames
  drawn := invariant.drawn
  apart := invariant.apart
  consumed := invariant.consumed
  current := fun row member live => by
    obtain ⟨old, oldMember, oldLive, -, -, digest⟩ := kept.live row member live
    exact digest ▸ invariant.current old oldMember oldLive
  owners := fun row member live token issued same => by
    obtain ⟨old, oldMember, oldLive, id, user, -⟩ := kept.live row member live
    show (row.userId, token.sub) ∈ accounts tables.users
    rw [kept.accounts, ← user]
    exact invariant.owners old oldMember oldLive token issued (same.trans id.symm)
  pending := fun request member => by
    show _ ∧ _ ∧ _ ∈ accounts tables.users
    rw [kept.accounts]
    exact invariant.pending request member
  dead := fun sid doomed => (invariant.dead sid doomed).mono (List.Subset.refl _)
    fun row inside _ live => kept.live row inside live

/-- Drawing identifiers that nothing uses keeps the invariant. -/
theorem SessionInvariant.draw (invariant : SessionInvariant given state)
    (sid jti : String) : SessionInvariant given (state.draw sid jti) where
  userIds := invariant.userIds
  usernames := invariant.usernames
  drawn := fun token issued => by
    obtain ⟨family, identifier⟩ := invariant.drawn token issued
    exact ⟨List.mem_cons_of_mem _ family, List.mem_cons_of_mem _ identifier⟩
  apart := invariant.apart
  consumed := invariant.consumed
  current := fun row member live => by
    obtain ⟨found, drawn, digest, unused⟩ := invariant.current row member live
    exact ⟨found, List.mem_cons_of_mem _ drawn, digest, unused⟩
  owners := invariant.owners
  pending := invariant.pending
  dead := fun family doomed => (invariant.dead family doomed).mono (List.subset_cons_self _ _)
    fun _ inside _ live => LiveKept.refl _ _ inside live

/-- A row of a family nobody has a token of keeps the invariant. -/
theorem SessionInvariant.created (invariant : SessionInvariant given state)
    {sid jti : String} (freshFamily : sid ∉ state.families) (fresh : jti ∉ state.jtis)
    (same : accounts tables.users = accounts state.tables.users)
    (kept : LiveKept state.tables.sessions.rows rows)
    {session : AuthSession} (written : tables.sessions.rows = rows ++ [session])
    (family : session.id = sid)
    (digest : session.revokedAt = none → session.refreshJtiDigest = jtiDigest jti) :
    SessionInvariant given ((state.draw sid jti).withTables tables) := by
  have split : ∀ row ∈ tables.sessions.rows, row.revokedAt = none →
      Survives state.tables.sessions.rows row ∨ row = session := by
    intro row member live
    rw [written, List.mem_append, List.mem_singleton] at member
    exact member.imp_left fun inside => kept row inside live
  have drawn := invariant.draw sid jti
  refine ⟨accounts_ids same ▸ invariant.userIds, accounts_usernames same ▸ invariant.usernames,
    drawn.drawn, invariant.apart, invariant.consumed, fun row member live => ?_,
    fun row member live token issued sameFamily => ?_, fun request member => ?_,
    fun sid doomed => ?_⟩
  · rcases split row member live with survives | rfl
    · obtain ⟨old, oldMember, oldLive, -, -, sameDigest⟩ := survives
      exact sameDigest ▸ drawn.current old oldMember oldLive
    · refine ⟨jti, List.mem_cons_self, digest live, fun token consumed sameJti => fresh ?_⟩
      exact sameJti ▸ (invariant.drawn token (invariant.consumed token consumed)).2
  · rcases split row member live with survives | rfl
    · obtain ⟨old, oldMember, oldLive, id, user, -⟩ := survives
      show (row.userId, token.sub) ∈ accounts tables.users
      rw [same, ← user]
      exact invariant.owners old oldMember oldLive token issued (sameFamily.trans id.symm)
    · refine absurd (invariant.drawn token issued).1 ?_
      rw [sameFamily, family]
      exact freshFamily
  · show _ ∧ _ ∧ _ ∈ accounts tables.users
    rw [same]
    exact invariant.pending request member
  · have dead := invariant.dead sid doomed
    refine dead.mono (List.subset_cons_self _ _) fun row inside sameFamily live => ?_
    rcases split row inside live with survives | rfl
    · exact survives
    · rw [← sameFamily, family] at dead
      exact absurd dead.1 freshFamily

/-- Handing out a token of its own keeps the invariant. -/
theorem SessionInvariant.issue (invariant : SessionInvariant given state)
    {token : RefreshToken} (drawn : token.sid ∈ state.families ∧ token.jti ∈ state.jtis)
    (own : ∀ other ∈ state.issued, other.jti ≠ token.jti)
    (owned : ∀ row ∈ state.tables.sessions.rows, row.revokedAt = none → token.sid = row.id →
      (row.userId, token.sub) ∈ accounts state.tables.users) :
    SessionInvariant given { state with issued := token :: state.issued } where
  userIds := invariant.userIds
  usernames := invariant.usernames
  drawn := List.forall_mem_cons.mpr ⟨drawn, invariant.drawn⟩
  apart := fun first firstMember second secondMember same => by
    rcases List.mem_cons.mp firstMember with firstNew | firstOld
    · rcases List.mem_cons.mp secondMember with secondNew | secondOld
      · exact firstNew.trans secondNew.symm
      · exact absurd (firstNew ▸ same.symm) (own second secondOld)
    · rcases List.mem_cons.mp secondMember with secondNew | secondOld
      · exact absurd (secondNew ▸ same) (own first firstOld)
      · exact invariant.apart first firstOld second secondOld same
  consumed := fun other member => List.mem_cons_of_mem _ (invariant.consumed other member)
  current := invariant.current
  owners := fun row member live other issued same => by
    rcases List.mem_cons.mp issued with rfl | issued
    · exact owned row member live same
    · exact invariant.owners row member live other issued same
  pending := fun request member => by
    obtain ⟨issued, replay, account⟩ := invariant.pending request member
    exact ⟨List.mem_cons_of_mem _ issued, replay, account⟩
  dead := invariant.dead

variable {request : PendingRefresh}

/-- A request that ends keeps the invariant, if the replay it was left its family dead. -/
theorem SessionInvariant.finish (invariant : SessionInvariant given state)
    {ending : RefreshEnding}
    (dead : request.replay = true →
      (Presentation.mk request.token request.now request.replay ending).Conclusive →
        FamilyDead state request.token.sid) :
    SessionInvariant given (state.finish request ending) where
  userIds := invariant.userIds
  usernames := invariant.usernames
  drawn := invariant.drawn
  apart := invariant.apart
  consumed := invariant.consumed
  current := invariant.current
  owners := invariant.owners
  pending := fun other member => invariant.pending other (List.mem_of_mem_erase member)
  dead := fun sid doomed => by
    rcases doomed.of_presented rfl with before | ⟨replay, conclusive, rfl⟩
    · exact invariant.dead sid before
    · exact dead replay conclusive

/-- A request that goes on keeps the invariant. -/
theorem SessionInvariant.proceed (invariant : SessionInvariant given state)
    (member : request ∈ state.pending) (phase : RefreshPhase) :
    SessionInvariant given (state.proceed request phase) where
  userIds := invariant.userIds
  usernames := invariant.usernames
  drawn := invariant.drawn
  apart := invariant.apart
  consumed := invariant.consumed
  current := invariant.current
  owners := invariant.owners
  pending := List.forall_mem_cons.mpr ⟨invariant.pending request member,
    fun other inside => invariant.pending other (List.mem_of_mem_erase inside)⟩
  dead := invariant.dead

/-! ### The statements of a refresh -/

/-- The account of a request is the one its token names. -/
theorem SessionInvariant.account_unique
    (invariant : SessionInvariant given state) {first second : Nat} {username : String}
    (firstMember : (first, username) ∈ accounts state.tables.users)
    (secondMember : (second, username) ∈ accounts state.tables.users) : first = second := by
  obtain ⟨user, userMember, same⟩ := List.mem_map.mp firstMember
  obtain ⟨other, otherMember, otherSame⟩ := List.mem_map.mp secondMember
  obtain ⟨rfl, name⟩ := Prod.mk.inj same
  obtain ⟨rfl, otherName⟩ := Prod.mk.inj otherSame
  rw [List.inj_on_of_nodup_map invariant.usernames userMember otherMember
    (name.trans otherName.symm)]

/-- No live row has the digest of a token that was replaced. -/
theorem SessionInvariant.digest_ne (invariant : SessionInvariant given state)
    {row : AuthSession} (member : row ∈ state.tables.sessions.rows) (live : row.revokedAt = none)
    {token : RefreshToken} (consumed : token ∈ state.consumed) :
    row.refreshJtiDigest ≠ jtiDigest token.jti := by
  obtain ⟨jti, -, digest, unused⟩ := invariant.current row member live
  intro same
  exact unused token consumed (jtiDigest_injective (same.symm.trans digest))

theorem lookupRefresh_invariant (invariant : SessionInvariant given state)
    {token : RefreshToken} (issued : token ∈ state.issued) (now : Nat) :
    SessionInvariant given (lookupRefresh state token now) := by
  have ended : ∀ {ending : RefreshEnding},
      ¬(Presentation.mk token now (decide (token ∈ state.consumed)) ending).Conclusive →
      SessionInvariant given { state with
        presented := ⟨token, now, decide (token ∈ state.consumed), ending⟩ :: state.presented } :=
    fun inconclusive => { invariant with
      dead := fun sid doomed => by
        rcases doomed.of_presented rfl with before | ⟨-, conclusive, -⟩
        · exact invariant.dead sid before
        · exact absurd conclusive inconclusive }
  unfold lookupRefresh
  split
  · exact ended id
  split
  · exact ended id
  · rename_i user found
    split
    · exact ended id
    · have member := List.mem_of_find?_eq_some found
      have named : user.username = token.sub := by simpa using List.find?_some found
      exact { invariant with
        pending := List.forall_mem_cons.mpr ⟨⟨issued, fun replay => of_decide_eq_true replay,
          named ▸ List.mem_map_of_mem member⟩, invariant.pending⟩ }

/-- A refresh that found no row to rotate inspects the family. -/
theorem refreshInspected_invariant (invariant : SessionInvariant given state)
    (member : request ∈ state.pending) :
    SessionInvariant given (refreshInspected state request) := by
  obtain ⟨issued, replayed, account⟩ := invariant.pending request member
  unfold refreshInspected
  cases found : state.tables.family request.token.sid with
  | none =>
    refine invariant.finish fun _ _ => ⟨(invariant.drawn _ issued).1, fun row inside same => ?_⟩
    have absent := List.find?_eq_none.mp found row inside
    simp only [decide_eq_true_eq] at absent
    exact absurd same absent
  | some existing =>
    have inside := List.mem_of_find?_eq_some found
    have sameFamily : existing.id = request.token.sid := by simpa using List.find?_some found
    show SessionInvariant given (if isReplay request.token request.userId request.now existing then _
      else _)
    split
    · exact invariant.proceed member .revoke
    · rename_i ignored
      refine invariant.finish fun replay conclusive => ⟨(invariant.drawn _ issued).1,
        fun row rowInside same live => ignored ?_⟩
      -- the row was not expired, so it can only have been left alone because it was revoked
      have unexpired : request.now < existing.expiresAt := conclusive _ rfl
      have sameRow : row = existing := List.inj_on_of_nodup_map state.tables.sessions.valid.ids
        rowInside inside (same.trans sameFamily.symm)
      subst sameRow
      refine ⟨?_, ⟨live, unexpired⟩, invariant.digest_ne rowInside live (replayed replay)⟩
      exact invariant.account_unique
        (invariant.owners row rowInside live _ issued sameFamily.symm) account

/-- A refresh that revokes its family leaves it dead. -/
theorem refreshRevoke_invariant (invariant : SessionInvariant given state)
    (member : request ∈ state.pending)
    (written : state.tables.write (revokeFamily state.tables.sessions.rows request.token.sid
      request.userId request.now) = .ok tables) :
    SessionInvariant given ((state.finish request .revoked).withTables tables) := by
  obtain ⟨issued, -, account⟩ := invariant.pending request member
  have kept := invariant.withTables (TablesKept.of_write (revokeFamily_kept _ _ _ _) written)
  refine kept.finish fun _ _ => ⟨(invariant.drawn _ issued).1, fun row inside same live => ?_⟩
  obtain ⟨-, rows⟩ := write_ok written
  rw [show (state.withTables tables).tables.sessions.rows = _ from rows] at inside
  obtain ⟨old, oldInside, rfl⟩ := List.mem_map.mp inside
  split at same
  · rename_i revoked
    rw [if_pos revoked] at live
    cases live
  · rename_i other
    rw [if_neg other] at live
    refine other ⟨same, ?_, live⟩
    exact invariant.account_unique
      (invariant.owners old oldInside live _ issued same.symm) account

/-- A refresh that rotates its family replaces its own token by a fresh one. -/
theorem refreshUpdated_invariant (invariant : SessionInvariant given state)
    (member : request ∈ state.pending) {jti : String}
    (fresh : jti ∉ state.jtis) {issuedAt : Nat} {updated : Option (AuthTables × RefreshToken)}
    (ran : rotateUpdate state.tables request.token request.userId request.now issuedAt jti =
      .ok updated) :
    SessionInvariant given (refreshUpdated state request jti updated) := by
  obtain ⟨issued, replayed, account⟩ := invariant.pending request member
  unfold rotateUpdate at ran
  split at ran
  · rename_i matched
    obtain ⟨session, inside, rotating⟩ := matched
    have ⟨sameFamily, _, digest, live, _⟩ := rotating
    obtain ⟨tables, written, ran⟩ := bind_ok_iff.mp ran
    cases ran
    obtain ⟨users, rows⟩ := write_ok written
    have same : accounts tables.users = accounts state.tables.users := congrArg _ users
    have jtiFresh : ∀ token ∈ state.issued, token.jti ≠ jti := fun token member equal =>
      fresh (equal ▸ (invariant.drawn token member).2)
    -- of the live rows only the one of this family is not as it was
    have split : ∀ row ∈ tables.sessions.rows, row.revokedAt = none →
        (row ∈ state.tables.sessions.rows ∧ row ≠ session) ∨
          (row.id = session.id ∧ row.userId = session.userId ∧
            row.refreshJtiDigest = jtiDigest jti) := by
      intro row rowInside rowLive
      rw [rows] at rowInside
      obtain ⟨old, oldInside, rfl⟩ := List.mem_map.mp rowInside
      by_cases here : rotates request.token request.userId request.now old
      · rw [if_pos here]
        exact Or.inr ⟨here.1.trans sameFamily.symm, here.2.1.trans rotating.2.1.symm, rfl⟩
      · rw [if_neg here]
        exact Or.inl ⟨oldInside, fun equal => here (equal ▸ rotating)⟩
    have rotated : SessionInvariant given { state with
        tables := tables
        jtis := jti :: state.jtis
        consumed := request.token :: state.consumed } := by
      refine ⟨accounts_ids same ▸ invariant.userIds, accounts_usernames same ▸ invariant.usernames,
        fun token inIssued => ⟨(invariant.drawn token inIssued).1,
          List.mem_cons_of_mem _ (invariant.drawn token inIssued).2⟩, invariant.apart,
        List.forall_mem_cons.mpr ⟨issued, invariant.consumed⟩, fun row rowInside rowLive => ?_,
        fun row rowInside rowLive token inIssued family => ?_, fun other otherMember => ?_,
        fun sid doomed => ?_⟩
      · rcases split row rowInside rowLive with ⟨old, other⟩ | ⟨-, -, new⟩
        · obtain ⟨found, drawn, ofFound, unused⟩ := invariant.current row old rowLive
          refine ⟨found, List.mem_cons_of_mem _ drawn, ofFound,
            List.forall_mem_cons.mpr ⟨fun equal => other ?_, unused⟩⟩
          exact List.inj_on_of_nodup_map state.tables.sessions.valid.digests old inside
            (by rw [ofFound, digest, equal])
        · exact ⟨jti, List.mem_cons_self, new, List.forall_mem_cons.mpr ⟨jtiFresh _ issued,
            fun token consumed => jtiFresh _ (invariant.consumed token consumed)⟩⟩
      · show (row.userId, token.sub) ∈ accounts tables.users
        rw [same]
        rcases split row rowInside rowLive with ⟨old, -⟩ | ⟨id, user, -⟩
        · exact invariant.owners row old rowLive token inIssued family
        · rw [user]
          exact invariant.owners session inside live token inIssued (family.trans id)
      · obtain ⟨otherIssued, otherReplay, otherAccount⟩ := invariant.pending other otherMember
        refine ⟨otherIssued, fun replay => List.mem_cons_of_mem _ (otherReplay replay), ?_⟩
        show _ ∈ accounts tables.users
        rw [same]
        exact otherAccount
      · obtain ⟨drawn, revoked⟩ := invariant.dead sid doomed
        refine ⟨drawn, fun row rowInside family rowLive => ?_⟩
        rcases split row rowInside rowLive with ⟨old, -⟩ | ⟨id, -, -⟩
        · exact revoked row old family rowLive
        · exact revoked session inside (id.symm.trans family) live
    have handedOut := @SessionInvariant.issue _ _ _ rotated
      (createRefreshToken request.token.sub request.token.sid jti issuedAt)
      ⟨(invariant.drawn _ issued).1, List.mem_cons_self⟩ jtiFresh
      fun row rowInside rowLive family =>
        rotated.owners row rowInside rowLive request.token issued family
    exact handedOut.finish fun replay _ =>
      absurd digest (invariant.digest_ne inside live (replayed replay))
  · cases ran
    exact invariant.proceed member .inspect

/-! ### New families -/

/-- A login adds one family with a token of its own. -/
theorem login_invariant (invariant : SessionInvariant given state)
    {userId now issuedAt : Nat} {sid jti : String} (freshFamily : sid ∉ state.families)
    (fresh : jti ∉ state.jtis) {result : AuthTables × RefreshToken}
    (issued : issueAuthSession state.tables userId now issuedAt sid jti = .ok result) :
    SessionInvariant given { (state.draw sid jti).withTables result.1 with
      issued := result.2 :: state.issued } := by
  unfold issueAuthSession at issued
  split at issued
  · cases issued
  · rename_i user found
    simp only [bind_ok_iff, Except.ok.injEq] at issued
    obtain ⟨_, -, tables, written, rfl⟩ := issued
    obtain ⟨users, rows⟩ := write_ok written
    have same : accounts tables.users = accounts state.tables.users := congrArg _ users
    have created : SessionInvariant given ((state.draw sid jti).withTables tables) :=
      invariant.created freshFamily fresh same (availableSessionSlot_kept _ _ _) rows rfl
        fun _ => rfl
    have own : ∀ other ∈ state.issued, other.jti ≠ jti :=
      fun other member equal => fresh (equal ▸ (invariant.drawn other member).2)
    refine created.issue ⟨List.mem_cons_self, List.mem_cons_self⟩ own
      fun row inside live family => ?_
    -- the new row is the only one of its family
    have rowOf : row = newSession (createRefreshToken user.username sid jti issuedAt) user.id
        (availableSessionSlot state.tables.sessions.rows user.id now).2 now :=
      List.inj_on_of_nodup_map tables.sessions.valid.ids inside
        (rows ▸ List.mem_append_right _ (List.mem_singleton_self _)) family.symm
    show (row.userId, user.username) ∈ accounts tables.users
    rw [same, rowOf]
    exact List.mem_map_of_mem (f := fun user => (user.id, user.username))
      (List.mem_of_find?_eq_some found)

/-- Maintenance access renews a session that is revoked, or adds a family whose token nobody
gets. -/
theorem maintenanceAccess_invariant (invariant : SessionInvariant given state)
    {user : VaultUser} {now issuedAt : Nat} {sid jti : String}
    (freshFamily : sid ∉ state.families) (fresh : jti ∉ state.jtis)
    (issued : issueMaintenanceAccess state.tables user now issuedAt sid jti = .ok tables) :
    SessionInvariant given ((state.draw sid jti).withTables tables) := by
  unfold issueMaintenanceAccess at issued
  split at issued
  · cases issued
  split at issued
  · obtain ⟨users, rows⟩ := write_ok issued
    refine invariant.created freshFamily fresh (congrArg _ users)
      (LiveKept.of_subset List.filter_sublist.subset) rows ?_ fun live => ?_
    · split <;> rfl
    · split at live
      · cases live
      · rename_i other
        rw [if_neg other]
        rfl
  · split at issued
    · refine (invariant.draw sid jti).withTables (TablesKept.of_write
        (LiveKept.map fun row live => ?_) issued)
      split at live
      · rename_i renewed
        rw [if_pos renewed]
        exact ⟨live, rfl, rfl, rfl⟩
      · rename_i other
        rw [if_neg other]
        exact ⟨live, rfl, rfl, rfl⟩
    · cases issued
      exact invariant.draw sid jti

/-- A registration adds an account with an id and a name of its own. -/
theorem register_invariant (invariant : SessionInvariant given state)
    {userId : Nat} {username : String} (freshId : userId ∉ state.tables.users.map VaultUser.id)
    (freshName : username ∉ state.tables.users.map VaultUser.username) :
    SessionInvariant given (state.withTables { state.tables with
      users := state.tables.users ++ [⟨userId, username, .ready, none⟩] }) := by
  have more : accounts state.tables.users ⊆
      accounts (state.tables.users ++ [⟨userId, username, .ready, none⟩]) := by
    unfold accounts
    rw [List.map_append]
    exact List.subset_append_left _ _
  refine { invariant with
    userIds := ?_
    usernames := ?_
    owners := fun row inside live token issued family =>
      more (invariant.owners row inside live token issued family)
    pending := fun request member => ?_ }
  · rw [show (state.withTables _).tables.users.map VaultUser.id =
      state.tables.users.map VaultUser.id ++ [userId] from List.map_append]
    exact List.Nodup.append invariant.userIds (List.nodup_singleton _)
      (List.disjoint_singleton.mpr freshId)
  · rw [show (state.withTables _).tables.users.map VaultUser.username =
      state.tables.users.map VaultUser.username ++ [username] from List.map_append]
    exact List.Nodup.append invariant.usernames (List.nodup_singleton _)
      (List.disjoint_singleton.mpr freshName)
  · obtain ⟨issued, replay, account⟩ := invariant.pending request member
    exact ⟨issued, replay, more account⟩

/-! ### Every run -/

theorem sessionStep_invariant {action : SessionAction}
    (invariant : SessionInvariant given state) (stepped : sessionStep state action = .ok next) :
    SessionInvariant given next := by
  cases action with
  | register userId username =>
    simp only [sessionStep, bind_ok_iff, possible_ok, Except.ok.injEq] at stepped
    obtain ⟨_, ⟨freshId, freshName⟩, rfl⟩ := stepped
    exact register_invariant invariant freshId freshName
  | login userId now issuedAt sid jti =>
    simp only [sessionStep, bind_ok_iff, possible_ok, authorized_ok, Except.ok.injEq] at stepped
    obtain ⟨_, ⟨freshFamily, fresh⟩, result, issued, rfl⟩ := stepped
    exact login_invariant invariant freshFamily fresh issued
  | refresh token now =>
    simp only [sessionStep, bind_ok_iff, possible_ok, Except.ok.injEq] at stepped
    obtain ⟨_, issued, rfl⟩ := stepped
    exact lookupRefresh_invariant invariant issued now
  | refreshUpdate request issuedAt jti =>
    simp only [sessionStep, bind_ok_iff, possible_ok, authorized_ok, Except.ok.injEq] at stepped
    obtain ⟨_, ⟨member, -, fresh⟩, updated, ran, rfl⟩ := stepped
    exact refreshUpdated_invariant invariant member fresh ran
  | refreshInspect request =>
    simp only [sessionStep, bind_ok_iff, possible_ok, Except.ok.injEq] at stepped
    obtain ⟨_, ⟨member, -⟩, rfl⟩ := stepped
    exact refreshInspected_invariant invariant member
  | refreshRevoke request =>
    simp only [sessionStep, bind_ok_iff, possible_ok, authorized_ok, Except.ok.injEq] at stepped
    obtain ⟨_, ⟨member, -⟩, tables, written, rfl⟩ := stepped
    exact refreshRevoke_invariant invariant member written
  | refreshFails request =>
    simp only [sessionStep, bind_ok_iff, possible_ok, Except.ok.injEq] at stepped
    obtain ⟨_, -, rfl⟩ := stepped
    exact { invariant with
      pending := fun other member => invariant.pending other (List.mem_of_mem_erase member) }
  | logout refreshToken accessToken now =>
    simp only [sessionStep, bind_ok_iff, authorized_ok, Except.ok.injEq] at stepped
    obtain ⟨tables, revoked, rfl⟩ := stepped
    exact invariant.withTables (revokePresentedSessions_kept revoked)
  | maintenanceAccess userId seen now issuedAt sid jti =>
    simp only [sessionStep, bind_ok_iff, possible_ok] at stepped
    obtain ⟨_, ⟨freshFamily, fresh⟩, stepped⟩ := stepped
    split at stepped
    · cases stepped
    · simp only [bind_ok_iff, authorized_ok, Except.ok.injEq] at stepped
      obtain ⟨tables, issued, rfl⟩ := stepped
      exact maintenanceAccess_invariant invariant freshFamily fresh issued
  | beginMaintenance userId sid lifecycle tokenPurpose fingerprint now =>
    simp only [sessionStep, bind_ok_iff, authorized_ok, Except.ok.injEq] at stepped
    obtain ⟨result, begun, rfl⟩ := stepped
    exact invariant.withTables (beginVaultMaintenance_kept begun)
  | clearMaintenance userId expectedState =>
    simp only [sessionStep, bind_ok_iff, authorized_ok, Except.ok.injEq] at stepped
    obtain ⟨tables, cleared, rfl⟩ := stepped
    exact invariant.withTables (clearVaultMaintenance_kept cleared)
  | finishErasure userId =>
    simp only [sessionStep, bind_ok_iff, authorized_ok, Except.ok.injEq] at stepped
    obtain ⟨tables, removed, rfl⟩ := stepped
    exact invariant.withTables (removeAuthSessionsAfterCleanup_kept removed)
  | finishRestore userId now =>
    simp only [sessionStep, bind_ok_iff, authorized_ok, Except.ok.injEq] at stepped
    obtain ⟨tables, finished, rfl⟩ := stepped
    exact invariant.withTables (finishRestore_kept finished)
  | finishReset userId sid now =>
    simp only [sessionStep, bind_ok_iff, authorized_ok, Except.ok.injEq] at stepped
    obtain ⟨tables, finished, rfl⟩ := stepped
    exact invariant.withTables (finishReset_kept finished)

theorem emptySessions_invariant : SessionInvariant (fun _ => False) emptySessions where
  userIds := List.nodup_nil
  usernames := List.nodup_nil
  drawn := nofun
  apart := nofun
  consumed := nofun
  current := nofun
  owners := nofun
  pending := nofun
  dead := by
    rintro sid (impossible | ⟨presentation, impossible, -⟩)
    · exact absurd impossible id
    · cases impossible

theorem reachable_sessionInvariant
    (reached : sessionMachine.Reachable state) : SessionInvariant (fun _ => False) state :=
  reached.invariant (SessionInvariant fun _ => False)
    (fun _ starts => starts ▸ emptySessions_invariant)
    fun _ _ _ invariant _ stepped => sessionStep_invariant invariant stepped

/-- A run keeps the invariant. -/
theorem run_sessionInvariant {state final : SessionState} {actions : List SessionAction}
    (invariant : SessionInvariant given state)
    (ran : sessionMachine.run state actions = .ok final) : SessionInvariant given final := by
  induction actions generalizing state with
  | nil =>
    cases ran
    exact invariant
  | cons action rest inductionHypothesis =>
    unfold Machine.run at ran
    cases stepped : sessionMachine.step state action with
    | ok next =>
      rw [stepped] at ran
      exact inductionHypothesis (sessionStep_invariant invariant stepped) ran
    | error refusal =>
      rw [stepped] at ran
      cases ran

/-- A dead family stays dead in every run. -/
theorem FamilyDead.run {state final : SessionState} {actions : List SessionAction}
    (reached : sessionMachine.Reachable state) {sid : String} (dead : FamilyDead state sid)
    (ran : sessionMachine.run state actions = .ok final) : FamilyDead final sid := by
  have invariant := reachable_sessionInvariant reached
  have given : SessionInvariant (fun family => family = sid) state :=
    { invariant with
      dead := fun family doomed => by
        rcases doomed with rfl | presented
        · exact dead
        · exact invariant.dead family (Or.inr presented) }
  exact (run_sessionInvariant given ran).dead sid (Or.inl rfl)

/-- Some refresh, at some time, would rotate the family of the token. -/
def Refreshable (state : SessionState) (token : RefreshToken) : Prop :=
  ∃ row ∈ state.tables.sessions.rows, ∃ userId now, rotates token userId now row

theorem FamilyDead.not_refreshable {token : RefreshToken}
    (dead : FamilyDead state token.sid) : ¬Refreshable state token := by
  rintro ⟨row, member, userId, now, family, -, -, live, -⟩
  exact dead.2 row member family live

/-- The live sessions of a user. -/
def liveSessions (state : SessionState) (userId now : Nat) : List AuthSession :=
  state.tables.sessions.rows.filter fun row => row.userId = userId ∧ row.isLive now

end

/-! ### A replay and an expired token -/

section

/-- The digest of two identifiers of the example; others are only marked. -/
def sampleDigest (jti : String) : String :=
  if jti = "00000000000000000000000000000001" then
    "e0cca2965509df678c8064f5e0b9076016fa752f88a6c749768db83479450cc5"
  else if jti = "00000000000000000000000000000002" then
    "d2b1f1d83f0ad4f52dec8a1e2091f5c94ffad00ed3528362353fbe97aacd0187"
  else "sha256 " ++ jti

theorem sampleDigest_injective : Function.Injective sampleDigest := by
  have marked : ∀ jti text, "sha256 " ++ jti = text → text.toList.head? = some 's' := by
    rintro jti _ rfl
    rw [String.toList_append]
    rfl
  intro first second same
  unfold sampleDigest at same
  split at same
  · rename_i isFirst
    split at same
    · rename_i isSecond
      exact isFirst.trans isSecond.symm
    split at same
    · exact absurd same (by decide)
    · exact absurd (marked _ _ same.symm) (by decide)
  split at same
  · rename_i isFirst
    split at same
    · exact absurd same (by decide)
    split at same
    · rename_i isSecond
      exact isFirst.trans isSecond.symm
    · exact absurd (marked _ _ same.symm) (by decide)
  · split at same
    · exact absurd (marked _ _ same) (by decide)
    split at same
    · exact absurd (marked _ _ same) (by decide)
    · have letters := congrArg String.toList same
      rw [String.toList_append, String.toList_append] at letters
      exact String.toList_inj.mp (List.append_cancel_left letters)

@[reducible] def SessionDigests.sample : SessionDigests where
  jtiDigest := sampleDigest
  erasurePendingDigest := fun sid => "erasure " ++ sid
  jtiDigest_injective := sampleDigest_injective

attribute [local instance] SessionDigests.sample

/-- The token of the login, and the one a refresh replaces it by. -/
def loginToken : RefreshToken :=
  createRefreshToken "ada" "0000000000000000000000000000000a"
    "00000000000000000000000000000001" 0

/-- A login, and a refresh a day later. -/
def signedIn : List SessionAction :=
  [.register 1 "ada",
    .login 1 0 0 "0000000000000000000000000000000a" "00000000000000000000000000000001",
    .refresh loginToken 86400000000,
    .refreshUpdate ⟨loginToken, 1, 86400000000, false, .update⟩ 86400000000
      "00000000000000000000000000000002"]

/-- The replaced token comes back an hour later. -/
def replayedSoon : List SessionAction :=
  signedIn ++ [.refresh loginToken 90000000000,
    .refreshUpdate ⟨loginToken, 1, 90000000000, true, .update⟩ 90000000000
      "00000000000000000000000000000003",
    .refreshInspect ⟨loginToken, 1, 90000000000, true, .inspect⟩,
    .refreshRevoke ⟨loginToken, 1, 90000000000, true, .revoke⟩]

/-- The replaced token comes back after it has expired. -/
def replayedLate : List SessionAction := signedIn ++ [.refresh loginToken 1209600000000]

/-- The state a run of the empty vault ends in. -/
def sessionsAfter (actions : List SessionAction) : SessionState :=
  match sessionMachine.run emptySessions actions with
  | .ok state => state
  | .error _ => emptySessions

end

end CareerOS
