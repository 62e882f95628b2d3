/-
This file proves what the session epochs of the client protect. In every run a request
resolves with data, is sent again and raises the unauthorized event only in the epoch
it began in, and is sent again with a token of that epoch. A login does not raise the
epoch when it completes, and the two ways to refresh do not know of each other: the
token of a login is safe, and a refresh is the only one in flight, in the runs in which
no refresh is under way when a login completes or when the other way begins one.
-/

import CareerOS.Client.SessionSteps

namespace CareerOS

namespace ClientSessions

/-! ### The condition -/

/-- No refresh of the client, and none of `AuthService`, may be answered. -/
structure Undisturbed (state : State) : Prop where
  requests : ∀ request ∈ state.requests, request.isRefreshing = false
  refreshes : ∀ refresh ∈ state.refreshes, refresh.isRefreshing = false

/-- No refresh of the epoch may still set its token. -/
structure Ungranted (state : State) : Prop where
  requests : ∀ request ∈ state.requests, request.purpose = .refresh →
    request.point.mayGrant = true → request.epoch ≠ state.sessionEpoch
  refreshes : ∀ refresh ∈ state.refreshes, refresh.isRefreshing = false

/-- A step is in order if it begins no refresh while the other way has one in flight, and
completes no login while a refresh of the epoch may still set the token. -/
def Meets (state : State) : Action → Prop
  | .authRefresh => state.authRefreshPromise = none → Undisturbed state
  | .respond id status => ∀ request ∈ state.requests[id]?,
    state.beginsRefresh request status = true → Undisturbed state
  | .resume id => ∀ request ∈ state.requests[id]?,
    state.completesLogin request = true → Ungranted state
  | _ => True

instance (state : State) : Decidable (Undisturbed state) :=
  decidable_of_iff ((∀ request ∈ state.requests, request.isRefreshing = false) ∧
      ∀ refresh ∈ state.refreshes, refresh.isRefreshing = false)
    ⟨fun ⟨requests, refreshes⟩ => ⟨requests, refreshes⟩,
      fun ⟨requests, refreshes⟩ => ⟨requests, refreshes⟩⟩

instance (state : State) : Decidable (Ungranted state) :=
  decidable_of_iff ((∀ request ∈ state.requests, request.purpose = .refresh →
      request.point.mayGrant = true → request.epoch ≠ state.sessionEpoch) ∧
      ∀ refresh ∈ state.refreshes, refresh.isRefreshing = false)
    ⟨fun ⟨requests, refreshes⟩ => ⟨requests, refreshes⟩,
      fun ⟨requests, refreshes⟩ => ⟨requests, refreshes⟩⟩

instance (state : State) (action : Action) : Decidable (Meets state action) := by
  unfold Meets
  split <;> infer_instance

/-! ### Runs in order -/

/-- A refresh that began after every login of its epoch. -/
def AfterLogins (log : List Entry) (epoch began : Nat) : Prop :=
  ∀ login ∈ log, login.effect.isLogin = true → login.epoch = epoch → login.clock < began

/-- What runs in order keep besides the invariant. -/
structure Orderly (state : State) : Prop where
  exclusive : ∀ request ∈ state.requests, request.isRefreshing = true →
    ∀ refresh ∈ state.refreshes, refresh.isRefreshing = false
  requests : ∀ request ∈ state.requests, request.purpose = .refresh →
    request.point.mayGrant = true → request.epoch = state.sessionEpoch →
      AfterLogins state.log state.sessionEpoch request.began
  refreshes : ∀ refresh ∈ state.refreshes, refresh.isRefreshing = true →
    AfterLogins state.log state.sessionEpoch refresh.began
  logins : KeepsLogins state.log

/-- Where a refresh may begin: nothing else refreshes, and the time is later than all that was
done. -/
structure MayBegin (state : State) : Prop where
  undisturbed : Undisturbed state
  later : ∀ entry ∈ state.log, entry.clock < state.clock

/-- Where a login may complete: it is the first of its epoch. -/
structure MayLogIn (state : State) : Prop where
  ungranted : Ungranted state
  first : ∀ entry ∈ state.log, entry.effect.isLogin = true → entry.epoch ≠ state.sessionEpoch

namespace Orderly

variable {state next : State}

/-- Fewer refreshes under way, and no more logins. -/
theorem mono (orderly : Orderly state)
    (requests : ∀ request ∈ next.requests, request.purpose = .refresh →
      ∃ before ∈ state.requests, before.purpose = .refresh ∧
        (request.isRefreshing = true → before.isRefreshing = true) ∧
        (request.point.mayGrant = true → before.point.mayGrant = true) ∧
        before.epoch = request.epoch ∧ before.began = request.began)
    (refreshes : ∀ refresh ∈ next.refreshes, refresh.isRefreshing = true →
      ∃ before ∈ state.refreshes, before.isRefreshing = true ∧ before.began = refresh.began)
    (log : ∀ entry ∈ next.log, entry.effect.isLogin = true → entry ∈ state.log)
    (epoch : next.sessionEpoch = state.sessionEpoch) (logins : KeepsLogins next.log) :
    Orderly next := by
  have after : ∀ began, AfterLogins state.log state.sessionEpoch began →
      AfterLogins next.log next.sessionEpoch began := by
    intro began isAfter login member isLogin same
    exact isAfter login (log login member isLogin) isLogin (same.trans epoch)
  constructor
  · intro request member refreshing refresh isRefresh
    have purpose : request.purpose = .refresh := by
      unfold Request.isRefreshing at refreshing
      rw [Bool.and_eq_true, Bool.and_eq_true, decide_eq_true_eq] at refreshing
      exact refreshing.1.1
    obtain ⟨before, old, -, was, -⟩ := requests request member purpose
    rw [Bool.eq_false_iff]
    intro also
    obtain ⟨earlier, isEarlier, wasAlso, -⟩ := refreshes refresh isRefresh also
    rw [orderly.exclusive before old (was refreshing) earlier isEarlier] at wasAlso
    cases wasAlso
  · intro request member purpose mayGrant same
    obtain ⟨before, old, wasRefresh, -, granted, sameEpoch, began⟩ :=
      requests request member purpose
    rw [← began]
    exact after _ (orderly.requests before old wasRefresh (granted mayGrant)
      (sameEpoch.trans (same.trans epoch)))
  · intro refresh member refreshing
    obtain ⟨before, old, was, began⟩ := refreshes refresh member refreshing
    rw [← began]
    exact after _ (orderly.refreshes before old was)
  · exact logins

variable {promise : Option Nat}

/-- One request changes. -/
theorem modify (orderly : Orderly state) {id : Nat} {request : Request}
    (found : state.requests[id]? = some request) {change : Request → Request}
    (kept : (change request).purpose = request.purpose ∧ (change request).epoch = request.epoch ∧
      (change request).began = request.began)
    (refreshing : (change request).isRefreshing = true → request.isRefreshing = true)
    (mayGrant : (change request).point.mayGrant = true → request.point.mayGrant = true) :
    Orderly { state with
      requests := state.requests.modify id change, authRefreshPromise := promise } := by
  refine orderly.mono ?_ (fun refresh member was => ⟨refresh, member, was, rfl⟩)
    (fun _ member _ => member) rfl orderly.logins
  intro other member isRefresh
  rcases mem_modify found member with old | rfl
  · exact ⟨other, old, isRefresh, fun was => was, fun was => was, rfl, rfl⟩
  · exact ⟨request, List.mem_of_getElem? found, kept.1.symm.trans isRefresh, refreshing, mayGrant,
      kept.2.1.symm, kept.2.2.symm⟩

/-- An entry that is no login. -/
theorem cons (orderly : Orderly state) {effect : Effect} (other : effect.isLogin = false)
    {token : Option String}
    (after : ∀ setter token, effect = .tokenSet setter token → ∀ login ∈ state.log,
      login.effect.isLogin = true → login.epoch = state.sessionEpoch →
        ∃ began, setter = .refresh began ∧ login.clock < began) :
    Orderly ({ state with accessToken := token }.note effect) := by
  refine orderly.mono
    (fun request member isRefresh => ⟨request, member, isRefresh, fun was => was,
      fun was => was, rfl, rfl⟩) (fun refresh member was => ⟨refresh, member, was, rfl⟩) ?_ rfl ?_
  · intro entry member isLogin
    rcases List.mem_cons.mp member with rfl | old
    · rw [other] at isLogin
      cases isLogin
    · exact old
  · intro login member later isLater isLogin same before setter token sets
    have old : login ∈ state.log := by
      rcases List.mem_cons.mp member with rfl | old
      · rw [other] at isLogin
        cases isLogin
      · exact old
    rcases List.mem_cons.mp isLater with rfl | alsoOld
    · exact after setter token sets login old isLogin same.symm
    · exact orderly.logins login old later alsoOld isLogin same before setter token sets

/-- The session is invalidated, and tokens may be set in the new epoch. -/
theorem invalidate (orderly : Orderly state) (consistent : Consistent state) :
    Orderly state.invalidateSession ∧
      ∀ began, AfterLogins state.log (state.sessionEpoch + 1) began := by
  have log : state.invalidateSession.log = state.log := by
    unfold State.invalidateSession
    cases state.refreshPromise <;> rfl
  have past : ∀ began, AfterLogins state.log (state.sessionEpoch + 1) began := by
    intro began login member _ same
    exact absurd same (Nat.ne_of_lt (Nat.lt_succ_of_le (consistent.log.epoch_le login member)))
  have none : ∀ request ∈ state.invalidateSession.requests, request.isRefreshing = false := by
    intro request member
    obtain ⟨before, -, rfl⟩ := List.mem_map.mp member
    unfold Request.isRefreshing Request.abort
    by_cases isActive : before.isActive = true
    · rw [if_pos isActive]
      dsimp only
      cases before.aborted <;> exact Bool.and_false _
    · rw [if_neg isActive, Bool.eq_false_iff.mpr isActive, Bool.and_false, Bool.false_and]
  refine ⟨⟨?_, ?_, ?_, ?_⟩, past⟩
  · intro request member refreshing
    rw [none request member] at refreshing
    cases refreshing
  · intro request member _ _ _
    rw [log]
    exact past request.began
  · intro refresh _ _
    rw [log]
    exact past refresh.began
  · rw [log]
    exact orderly.logins

/-- A login sets the token. -/
theorem login (orderly : Orderly state) (consistent : Consistent state) (may : MayLogIn state)
    (setter : Setter) (token : Option String) :
    Orderly ({ state with accessToken := token }.note (.tokenSet setter token)) where
  exclusive := orderly.exclusive
  requests := fun request member purpose mayGrant current =>
    absurd current (may.ungranted.requests request member purpose mayGrant)
  refreshes := fun refresh member refreshing => by
    rw [may.ungranted.refreshes refresh member] at refreshing
    cases refreshing
  logins := by
    intro login member later isLater isLogin same before other given sets
    rcases List.mem_cons.mp isLater with rfl | old
    · rcases List.mem_cons.mp member with rfl | alsoOld
      · exact absurd before (Nat.lt_irrefl _)
      · exact absurd same.symm (may.first login alsoOld isLogin)
    · rcases List.mem_cons.mp member with rfl | alsoOld
      · exact absurd before (Nat.not_lt.mpr (consistent.log.clock_le later old))
      · exact orderly.logins login alsoOld later old isLogin same before other given sets

/-- A new request, which may be a refresh where nothing refreshes. -/
theorem openRequest (orderly : Orderly state) {purpose : Purpose} (suppress : Bool)
    (token : Option String) (may : purpose = .refresh → MayBegin state) :
    Orderly { state.openRequest purpose suppress token with authRefreshPromise := promise } where
  exclusive := by
    intro request member refreshing refresh isRefresh
    rcases List.mem_append.mp member with old | new
    · exact orderly.exclusive request old refreshing refresh isRefresh
    · rw [List.mem_singleton.mp new] at refreshing
      unfold Request.isRefreshing at refreshing
      rw [Bool.and_eq_true, Bool.and_eq_true, decide_eq_true_eq] at refreshing
      exact (may refreshing.1.1).undisturbed.refreshes refresh isRefresh
  requests := by
    intro request member isRefresh mayGrant current
    rcases List.mem_append.mp member with old | new
    · exact orderly.requests request old isRefresh mayGrant current
    · rw [List.mem_singleton.mp new] at isRefresh ⊢
      exact fun login isEntry _ _ => (may isRefresh).later login isEntry
  refreshes := orderly.refreshes
  logins := orderly.logins

/-- A new refresh of the client, where nothing refreshes. -/
theorem openRefresh (orderly : Orderly state) (may : MayBegin state) :
    Orderly state.openRefresh where
  exclusive := by
    intro request member refreshing
    rw [may.undisturbed.requests request member] at refreshing
    cases refreshing
  requests := orderly.requests
  refreshes := by
    intro refresh member refreshing
    rcases List.mem_append.mp member with old | new
    · exact orderly.refreshes refresh old refreshing
    · rw [List.mem_singleton.mp new]
      exact fun login isEntry _ _ => may.later login isEntry
  logins := orderly.logins

/-- A refresh of the client changes. -/
theorem modifyRefresh (orderly : Orderly state) {id : Nat} {refresh : Refresh}
    (found : state.refreshes[id]? = some refresh) {change : Refresh → Refresh}
    (moves : RefreshMoves state id refresh change promise) :
    Orderly { state with
      refreshes := state.refreshes.modify id change, refreshPromise := promise } := by
  refine orderly.mono
    (fun request member isRefresh => ⟨request, member, isRefresh, fun was => was,
      fun was => was, rfl, rfl⟩) ?_ (fun _ member _ => member) rfl orderly.logins
  intro other member refreshing
  rcases mem_modify found member with old | rfl
  · exact ⟨other, old, refreshing, rfl⟩
  · exact ⟨refresh, List.mem_of_getElem? found, moves.refreshing refreshing, (moves.began _).symm⟩

end Orderly

/-- Runs in order keep the order. -/
theorem keeps_orderly : Keeps (fun state => Consistent state ∧ Orderly state) MayBegin MayLogIn
    AfterLogins where
  consistent := And.left
  logout := fun token holds => ⟨holds.1.logout token,
    ⟨holds.2.exclusive, holds.2.requests, holds.2.refreshes, holds.2.logins⟩⟩
  moveTo := by
    intro state id request point holds found moves
    refine ⟨keeps_consistent.moveTo holds.1 found moves, holds.2.modify found ⟨rfl, rfl, rfl⟩ ?_
      moves.mayGrant⟩
    unfold Request.isRefreshing
    rw [Bool.and_eq_true, Bool.and_eq_true, Bool.and_eq_true, Bool.and_eq_true]
    exact fun ⟨⟨purpose, isActive⟩, aborted⟩ => ⟨⟨purpose, moves.active isActive⟩, aborted⟩
  note := by
    intro state effect holds fits sets
    refine ⟨holds.1.note fits sets, holds.2.cons ?_ fun setter token same =>
      absurd same (sets setter token)⟩
    cases effect with
    | tokenSet setter token => exact absurd rfl (sets setter token)
    | resolved => rfl
    | unauthorized => rfl
    | retried => rfl
  login := fun {_ _ setter} token holds may member isLogin epoch point sets =>
    ⟨keeps_consistent.login token holds.1 trivial member isLogin epoch point sets,
      holds.2.login holds.1 may setter (some token)⟩
  refresh := fun token holds after => ⟨keeps_consistent.refresh token holds.1 trivial,
    holds.2.cons rfl fun setter given same login member isLogin current =>
      ⟨_, (Effect.tokenSet.inj same).1.symm, after login member isLogin current⟩⟩
  maintenance := by
    intro state token holds
    obtain ⟨orderly, past⟩ := holds.2.invalidate holds.1
    refine ⟨keeps_consistent.maintenance token holds.1, orderly.cons rfl ?_⟩
    -- The epoch is new, so nobody has logged in in it.
    intro setter given _ login member isLogin current
    have log : state.invalidateSession.log = state.log := by
      unfold State.invalidateSession
      cases state.refreshPromise <;> rfl
    rw [log] at member
    exact absurd (past 0 login member isLogin current) (Nat.not_lt_zero _)
  invalidateSession := fun holds =>
    ⟨holds.1.invalidateSession, (holds.2.invalidate holds.1).1⟩
  openRequest := fun suppress token holds other first =>
    ⟨holds.1.openRequest suppress token other first,
      holds.2.openRequest suppress token fun isRefresh => absurd isRefresh other⟩
  openAuthRefresh := fun token holds free may => ⟨holds.1.openAuthRefresh token free,
    holds.2.openRequest true token fun _ => may⟩
  openRefresh := fun holds free may => ⟨holds.1.openRefresh free, holds.2.openRefresh may⟩
  modifyRefresh := fun holds found moves =>
    ⟨keeps_consistent.modifyRefresh holds.1 found moves, holds.2.modifyRefresh found moves⟩
  abort := by
    intro state id request reason holds found isActive
    refine ⟨holds.1.abort found isActive reason, holds.2.modify found ?_ ?_ ?_⟩
    all_goals
      unfold Request.abort
      rw [if_pos isActive]
    · exact ⟨rfl, rfl, rfl⟩
    · unfold Request.isRefreshing
      rw [Bool.and_eq_true, Bool.and_eq_true, Bool.and_eq_true, Bool.and_eq_true]
      rintro ⟨⟨purpose, -⟩, aborted⟩
      refine ⟨⟨purpose, isActive⟩, ?_⟩
      cases was : request.aborted with
      | none => rfl
      | some first =>
        rw [was] at aborted
        cases aborted
    · exact fun mayGrant => mayGrant
  release := by
    intro state id request holds found point purpose
    refine ⟨holds.1.release found point purpose, holds.2.modify found ⟨rfl, rfl, rfl⟩ ?_ nofun⟩
    unfold Request.isRefreshing
    rw [Bool.and_eq_true, Bool.and_eq_true]
    exact fun ⟨⟨_, isActive⟩, _⟩ => nomatch isActive
  authGrants := fun holds member purpose mayGrant current =>
    holds.2.requests _ member purpose mayGrant current
  refreshGrants := fun holds member refreshing => holds.2.refreshes _ member refreshing

/-- A step that is in order may be taken. -/
theorem permits_of_meets {state : State} {action : Action} (consistent : Consistent state)
    (meets : Meets state action) : Permits MayBegin MayLogIn state.tick action where
  authRefresh := by
    rintro rfl free
    exact ⟨⟨(meets free).requests, (meets free).refreshes⟩,
      fun entry member => Nat.lt_succ_of_le (consistent.log.clock_le entry member)⟩
  respond := by
    rintro id status request rfl found begun
    obtain ⟨requests, refreshes⟩ := meets request found begun
    exact ⟨⟨requests, refreshes⟩,
      fun entry member => Nat.lt_succ_of_le (consistent.log.clock_le entry member)⟩
  resume := by
    rintro id request rfl found completes
    obtain ⟨requests, refreshes⟩ := meets request found completes
    unfold State.completesLogin at completes
    rw [Bool.and_eq_true, Bool.and_eq_true, decide_eq_true_eq] at completes
    obtain ⟨⟨isLogin, current⟩, point⟩ := completes
    refine ⟨⟨?_, refreshes⟩, ?_⟩
    · intro other member isRefresh mayGrant
      have found : state.requests[id]? = some request := found
      rcases mem_modify found member with old | rfl
      · exact requests other old isRefresh mayGrant
      · cases mayGrant
    · -- Only one login begins in an epoch, and this one has not completed.
      intro entry member entryLogin sameEpoch
      obtain ⟨login, old, isAlso, epoch, done⟩ := consistent.log.loggedIn entry member entryLogin
      obtain ⟨index, isIndex⟩ := List.mem_iff_getElem?.mp old
      have equal : index = id := consistent.requests.oneLogin index id login request isIndex found
        isAlso isLogin ((epoch.trans sameEpoch).trans current.symm)
      have found : state.requests[id]? = some request := found
      rw [equal, found] at isIndex
      rw [Option.some.inj isIndex, done] at point
      cases point

/-- Runs in order keep the invariant and the order. -/
theorem orderly_of_reachable {state : State} (reached : machine.ReachableWhen Meets state) :
    Consistent state ∧ Orderly state := by
  refine reached.invariant (fun state => Consistent state ∧ Orderly state) ?_ ?_
  · rintro first rfl
    refine ⟨Consistent.start, ?_, ?_, ?_, ?_⟩
    · exact fun _ member => absurd member List.not_mem_nil
    · exact fun _ member => absurd member List.not_mem_nil
    · exact fun _ member => absurd member List.not_mem_nil
    · exact fun _ member => absurd member List.not_mem_nil
  · intro before action after holds meets stepped
    have ticked : Orderly before.tick :=
      ⟨holds.2.exclusive, holds.2.requests, holds.2.refreshes, holds.2.logins⟩
    exact keeps_orderly.perform ⟨holds.1.tick, ticked⟩ (permits_of_meets holds.1 meets)
      (step_ok stepped)

/-! ### One refresh at a time -/

/-- A list of which at most one place passes has at most one that does. -/
theorem countP_le_one {Item : Type} {items : List Item} {passes : Item → Bool}
    (one : ∀ (first second : Nat) (item other : Item), items[first]? = some item →
      items[second]? = some other → passes item = true → passes other = true →
        first = second) : items.countP passes ≤ 1 := by
  induction items with
  | nil => exact Nat.zero_le 1
  | cons item rest inductionHypothesis =>
    rw [List.countP_cons]
    by_cases here : passes item = true
    · have none : rest.countP passes = 0 := by
        rw [List.countP_eq_zero]
        intro other member also
        obtain ⟨index, found⟩ := List.mem_iff_getElem?.mp member
        exact absurd (one 0 (index + 1) item other rfl found here also) nofun
      exact Nat.le_of_eq (by rw [if_pos here, none])
    · rw [if_neg here]
      refine inductionHypothesis fun first second one' other isFirst isSecond => ?_
      exact fun passed also => Nat.succ.inj (one (first + 1) (second + 1) one' other isFirst
        isSecond passed also)

/-- A run in order has at most one refresh in flight. -/
theorem refreshesInFlight_le_one {state : State} (consistent : Consistent state)
    (orderly : Orderly state) (epoch : Nat) : state.refreshesInFlight epoch ≤ 1 := by
  have requests : state.requests.countP
      (fun request => request.isRefreshing && request.epoch = epoch) ≤ 1 := by
    refine countP_le_one fun first second item other isFirst isSecond passed also => ?_
    have promised : ∀ (index : Nat) (request : Request), state.requests[index]? = some request →
        (request.isRefreshing && request.epoch = epoch) = true →
          state.authRefreshPromise = some index := by
      intro index request found refreshing
      unfold Request.isRefreshing at refreshing
      rw [Bool.and_eq_true, Bool.and_eq_true, Bool.and_eq_true, decide_eq_true_eq] at refreshing
      refine consistent.requests.promised index request found refreshing.1.1.1 fun done => ?_
      have isActive := refreshing.1.1.2
      unfold Request.isActive at isActive
      rw [done] at isActive
      cases isActive
    exact Option.some.inj ((promised first item isFirst passed).symm.trans
      (promised second other isSecond also))
  have refreshes : state.refreshes.countP
      (fun refresh => refresh.isRefreshing && refresh.epoch = epoch) ≤ 1 := by
    refine countP_le_one fun first second item other isFirst isSecond passed also => ?_
    rw [Bool.and_eq_true] at passed also
    exact Option.some.inj ((consistent.refreshes.pending first item isFirst passed.1).2.symm.trans
      (consistent.refreshes.pending second other isSecond also.1).2)
  unfold State.refreshesInFlight
  by_cases some : ∃ request ∈ state.requests, request.isRefreshing = true
  · obtain ⟨request, member, refreshing⟩ := some
    have none : state.refreshes.countP
        (fun refresh => refresh.isRefreshing && refresh.epoch = epoch) = 0 := by
      rw [List.countP_eq_zero]
      intro refresh isRefresh passed
      rw [orderly.exclusive request member refreshing refresh isRefresh] at passed
      cases passed
    rw [none]
    exact requests
  · have none : state.requests.countP
        (fun request => request.isRefreshing && request.epoch = epoch) = 0 := by
      rw [List.countP_eq_zero]
      intro request member passed
      rw [Bool.and_eq_true] at passed
      exact some ⟨request, member, passed.1⟩
    rw [none, Nat.zero_add]
    exact refreshes

/-! ### The claim and its limit -/

/-- In every run requests keep to their epochs, and the token is the one that was set last; in
every run in order, logins keep their tokens besides and one refresh is in flight at most. -/
theorem sessions_safe (state : State) : (machine.Reachable state → KeepsEpochs state.log ∧
      state.accessToken = lastToken state.log state.sessionEpoch) ∧
    (machine.ReachableWhen Meets state → SessionSafe state) := by
  constructor
  · intro reached
    have consistent := consistent_of_reachable reached
    exact ⟨consistent.log.keeps, consistent.log.held⟩
  · intro reached
    obtain ⟨consistent, orderly⟩ := orderly_of_reachable reached
    exact ⟨consistent.log.keeps, consistent.log.held, orderly.logins,
      refreshesInFlight_le_one consistent orderly⟩

/-- A login, and then a request that is refused, refreshed and answered. -/
def refreshedRun : List Action :=
  [.login, .respond 0 200, .read 0 (.value (some "new")), .resume 0, .request false,
    .respond 1 401, .respondRefresh 0 200, .readRefresh 0 (.value (some "newer")),
    .refreshed 1 false, .respond 1 200, .proceed 1, .read 1 (.value none)]

/-- The run is in order, so that it is safe where it ends. -/
theorem sessions_safe_refreshed : ∃ state, machine.Reachable state ∧ SessionSafe state ∧
    KeepsEpochs state.log ∧ state.accessToken = some "newer" := by
  have ran : ((machine.checkedRun (fun state action => decide (Meets state action)) State.start
      refreshedRun).map State.accessToken) = some (some "newer") := by decide +kernel
  obtain ⟨state, run, token⟩ := Option.map_eq_some_iff.mp ran
  have reached : machine.ReachableWhen Meets state :=
    Machine.ReachableWhen.checkedRun (.initial rfl) (fun _ _ => of_decide_eq_true) run
  exact ⟨state, reached.reachable, (sessions_safe state).2 reached,
    ((sessions_safe state).1 reached.reachable).1, token⟩

/-- A login, during which a request is refused and refreshed. -/
def overtakenRun : List Action :=
  [.login, .request false, .respond 1 401, .respond 0 200, .read 0 (.value (some "new")),
    .resume 0, .respondRefresh 0 200, .readRefresh 0 (.value (some "old"))]

/-- The refresh that began before the login had completed replaces its token. -/
theorem sessions_not_safe : ¬∀ state, machine.Reachable state → SessionSafe state := by
  intro claimed
  have ran : ((machine.run State.start overtakenRun).toOption.map State.log) =
      some [⟨8, 1, .tokenSet (.refresh 3) (some "old")⟩,
        ⟨6, 1, .resolved 1 (.value (some "new"))⟩, ⟨6, 1, .tokenSet .login (some "new")⟩,
        ⟨5, 1, .resolved 1 (.value (some "new"))⟩] := by decide +kernel
  obtain ⟨state, run, log⟩ := Machine.run_ok_of_observed ran
  have safe := (claimed state (Machine.Reachable.run (.initial rfl) run)).logins
  rw [log] at safe
  obtain ⟨began, same, later⟩ := safe ⟨6, 1, .tokenSet .login (some "new")⟩ (by decide)
    ⟨8, 1, .tokenSet (.refresh 3) (some "old")⟩ (by decide) rfl rfl (by decide) _ _ rfl
  obtain rfl := Setter.refresh.inj same
  exact absurd later (by decide)

end ClientSessions

end CareerOS
