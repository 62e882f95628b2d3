/-
This file states what the session epochs of the client protect, and the invariant that
shows it: how the requests, the refreshes, the promises, the token and the log fit each
other. Each of the few changes that the functions of the client are made of keeps it.
-/

import CareerOS.Client.Sessions

namespace CareerOS

namespace ClientSessions

/-! ### What may not happen -/

/-- A login or a registration. -/
def Purpose.isLogin : Purpose → Bool
  | .login | .register => true
  | _ => false

/-- A token that was set by a login or a registration. -/
def Effect.isLogin : Effect → Bool
  | .tokenSet .login _ | .tokenSet .register _ => true
  | _ => false

/-- The token that is set in an epoch, by an entry that sets one. -/
def Entry.tokenIn (epoch : Nat) (entry : Entry) : Option (Option String) :=
  match entry.effect with
  | .tokenSet _ token => if entry.epoch = epoch then some token else none
  | _ => none

/-- The token that was set last in an epoch. -/
def lastToken (log : List Entry) (epoch : Nat) : Option String :=
  (log.findSome? (Entry.tokenIn epoch)).join

/-- A request that refreshes the session and may be answered. -/
def Request.isRefreshing (request : Request) : Bool :=
  request.purpose = .refresh && request.isActive && request.aborted.isNone

/-- A refresh of the client that may be answered. -/
def Refresh.isRefreshing (refresh : Refresh) : Bool :=
  refresh.isPending && !refresh.aborted

/-- The requests in flight that present the session cookie to be refreshed, of an epoch. -/
def State.refreshesInFlight (state : State) (epoch : Nat) : Nat :=
  state.requests.countP (fun request => request.isRefreshing && request.epoch = epoch) +
    state.refreshes.countP fun refresh => refresh.isRefreshing && refresh.epoch = epoch

/-- What every run keeps: data and the unauthorized event belong to the epoch in which a request
began, and so does the token with which it is sent again. -/
structure KeepsEpochs (log : List Entry) : Prop where
  resolved : ∀ entry ∈ log, ∀ epoch payload, entry.effect = .resolved epoch payload →
    epoch = entry.epoch
  unauthorized : ∀ entry ∈ log, ∀ epoch, entry.effect = .unauthorized epoch →
    epoch = entry.epoch
  retried : ∀ entry ∈ log, ∀ epoch token, entry.effect = .retried epoch token →
    epoch = entry.epoch ∧ ∃ earlier ∈ log, earlier.epoch = epoch ∧
      ∃ began, earlier.effect = .tokenSet (.refresh began) (some token)

/-- After a login only a refresh that began later sets the token in its epoch. -/
def KeepsLogins (log : List Entry) : Prop :=
  ∀ login ∈ log, ∀ later ∈ log, login.effect.isLogin = true → later.epoch = login.epoch →
    login.clock < later.clock → ∀ setter token, later.effect = .tokenSet setter token →
      ∃ began, setter = .refresh began ∧ login.clock < began

/-- What is claimed of a state. -/
structure SessionSafe (state : State) : Prop where
  epochs : KeepsEpochs state.log
  held : state.accessToken = lastToken state.log state.sessionEpoch
  logins : KeepsLogins state.log
  single : ∀ epoch, state.refreshesInFlight epoch ≤ 1

/-! ### Records -/

section

variable {Item : Type} {items : List Item} {item : Item} {id : Nat}

theorem getElem?_append_one {last : Item} {index : Nat}
    (found : (items ++ [last])[index]? = some item) :
    items[index]? = some item ∨ index = items.length ∧ item = last := by
  rcases Nat.lt_or_ge index items.length with inside | outside
  · rw [List.getElem?_append_left inside] at found
    exact Or.inl found
  · rw [List.getElem?_append_right outside] at found
    obtain ⟨bound, same⟩ := List.getElem?_eq_some_iff.mp found
    rw [List.length_singleton] at bound
    refine Or.inr ⟨by omega, ?_⟩
    rw [← same, List.getElem_singleton]

variable {change : Item → Item}

theorem getElem?_modify_some {index : Nat} (found : (items.modify id change)[index]? = some item) :
    ∃ before, items[index]? = some before ∧
      item = if id = index then change before else before := by
  rw [List.getElem?_modify] at found
  obtain ⟨before, isBefore, same⟩ := Option.map_eq_some_iff.mp found
  exact ⟨before, isBefore, same.symm⟩

/-- A member after one was changed. -/
theorem mem_modify {before : Item} (found : items[id]? = some before)
    (member : item ∈ items.modify id change) : item ∈ items ∨ item = change before := by
  obtain ⟨index, isItem⟩ := List.mem_iff_getElem?.mp member
  obtain ⟨old, isOld, same⟩ := getElem?_modify_some isItem
  by_cases here : id = index
  · rw [if_pos here] at same
    rw [← here, found] at isOld
    exact Or.inr (same.trans (congrArg change (Option.some.inj isOld).symm))
  · rw [if_neg here] at same
    exact Or.inl (same ▸ List.mem_of_getElem? isOld)

/-- What is not changed is still there. -/
theorem mem_modify_of_ne {before : Item} (found : items[id]? = some before)
    (member : item ∈ items) (different : item ≠ before) : item ∈ items.modify id change := by
  obtain ⟨index, isItem⟩ := List.mem_iff_getElem?.mp member
  refine List.mem_iff_getElem?.mpr ⟨index, ?_⟩
  have elsewhere : id ≠ index := by
    rintro rfl
    exact different (Option.some.inj (isItem.symm.trans found))
  rw [List.getElem?_modify, isItem]
  exact congrArg some (if_neg elsewhere)

end

/-! ### The invariant -/

/-- The requests fit the refreshes, the promise of `AuthService` and the epoch. -/
structure RequestsFit (requests : List Request) (refreshes : List Refresh)
    (authRefreshPromise : Option Nat) (sessionEpoch : Nat) : Prop where
  epoch_le : ∀ request ∈ requests, request.epoch ≤ sessionEpoch
  waiting : ∀ request ∈ requests, ∀ id, request.point = .waiting id →
    ∃ refresh, refreshes[id]? = some refresh ∧ refresh.epoch = request.epoch
  promised : ∀ id request, requests[id]? = some request → request.purpose = .refresh →
    request.point ≠ .released → authRefreshPromise = some id
  aborted : ∀ request ∈ requests, request.isActive = true → request.epoch ≠ sessionEpoch →
    request.aborted.isSome
  oneLogin : ∀ (id other : Nat) (request login : Request), requests[id]? = some request → requests[other]? = some login →
    request.purpose.isLogin = true → login.purpose.isLogin = true →
      request.epoch = login.epoch → id = other

/-- The refreshes of the client fit its promise and the epoch. -/
structure RefreshesFit (refreshes : List Refresh) (refreshPromise : Option Nat)
    (sessionEpoch : Nat) : Prop where
  epoch_le : ∀ refresh ∈ refreshes, refresh.epoch ≤ sessionEpoch
  pending : ∀ id refresh, refreshes[id]? = some refresh → refresh.isRefreshing = true →
    refresh.epoch = sessionEpoch ∧ refreshPromise = some id
  promised : ∀ id, refreshPromise = some id →
    ∃ refresh, refreshes[id]? = some refresh ∧ refresh.epoch = sessionEpoch

/-- The log fits the rest. -/
structure LogFits (log : List Entry) (requests : List Request) (refreshes : List Refresh)
    (accessToken : Option String) (sessionEpoch clock : Nat) : Prop where
  epoch_le : ∀ entry ∈ log, entry.epoch ≤ sessionEpoch
  clock_le : ∀ entry ∈ log, entry.clock ≤ clock
  held : accessToken = lastToken log sessionEpoch
  keeps : KeepsEpochs log
  granted : ∀ refresh ∈ refreshes, ∀ token, refresh.point = .settled (some token) →
    ∃ entry ∈ log, entry.epoch = refresh.epoch ∧
      ∃ began, entry.effect = .tokenSet (.refresh began) (some token)
  loggedIn : ∀ entry ∈ log, entry.effect.isLogin = true → ∃ request ∈ requests,
    request.purpose.isLogin = true ∧ request.epoch = entry.epoch ∧ request.point = .resumed

/-- The invariant of every run. -/
structure Consistent (state : State) : Prop where
  requests : RequestsFit state.requests state.refreshes state.authRefreshPromise
    state.sessionEpoch
  refreshes : RefreshesFit state.refreshes state.refreshPromise state.sessionEpoch
  log : LogFits state.log state.requests state.refreshes state.accessToken state.sessionEpoch
    state.clock

/-! ### Requests -/

variable {promise : Option Nat}

section

variable {requests : List Request} {refreshes : List Refresh} {authRefreshPromise : Option Nat}
variable {sessionEpoch id : Nat} {request : Request}

/-- A request may move on, and be aborted. -/
theorem RequestsFit.modify
    (fit : RequestsFit requests refreshes authRefreshPromise sessionEpoch)
    (found : requests[id]? = some request) {change : Request → Request}
    (purpose : ∀ before, (change before).purpose = before.purpose)
    (epoch : ∀ before, (change before).epoch = before.epoch)
    (waits : ∀ refresh, (change request).point = .waiting refresh →
      ∃ found, refreshes[refresh]? = some found ∧ found.epoch = request.epoch)
    (released : (change request).point ≠ .released → request.point ≠ .released)
    (active : (change request).isActive = true → request.isActive = true)
    (aborted : request.aborted.isSome → (change request).aborted.isSome) :
    RequestsFit (requests.modify id change) refreshes authRefreshPromise sessionEpoch := by
  have isMember : request ∈ requests := List.mem_of_getElem? found
  constructor
  · intro other member
    rcases mem_modify found member with old | rfl
    · exact fit.epoch_le other old
    · rw [epoch]
      exact fit.epoch_le request isMember
  · intro other member refresh point
    rcases mem_modify found member with old | rfl
    · exact fit.waiting other old refresh point
    · rw [epoch]
      exact waits refresh point
  · intro index other isOther isRefresh unreleased
    obtain ⟨before, isBefore, rfl⟩ := getElem?_modify_some isOther
    by_cases here : id = index
    · rw [if_pos here] at isRefresh unreleased
      obtain rfl : request = before := by
        rw [here, isBefore] at found
        exact (Option.some.inj found).symm
      rw [purpose] at isRefresh
      exact fit.promised index request isBefore isRefresh (released unreleased)
    · rw [if_neg here] at isRefresh unreleased
      exact fit.promised index before isBefore isRefresh unreleased
  · intro other member isActive past
    rcases mem_modify found member with old | rfl
    · exact fit.aborted other old isActive past
    · rw [epoch] at past
      exact aborted (fit.aborted request isMember (active isActive) past)
  · intro index other first second isFirst isSecond firstLogin secondLogin same
    obtain ⟨before, isBefore, rfl⟩ := getElem?_modify_some isFirst
    obtain ⟨also, isAlso, rfl⟩ := getElem?_modify_some isSecond
    have kept : ∀ (old : Request) (place : Nat),
        (if id = place then change old else old).purpose = old.purpose ∧
          (if id = place then change old else old).epoch = old.epoch := by
      intro old place
      split
      · exact ⟨purpose old, epoch old⟩
      · exact ⟨rfl, rfl⟩
    rw [(kept _ _).1] at firstLogin secondLogin
    rw [(kept _ _).2, (kept _ _).2] at same
    exact fit.oneLogin index other before also isBefore isAlso firstLogin secondLogin same

/-- The session is invalidated. -/
theorem RequestsFit.invalidate
    (fit : RequestsFit requests refreshes authRefreshPromise sessionEpoch) :
    RequestsFit (requests.map (Request.abort .sessionInvalidated)) refreshes authRefreshPromise
      (sessionEpoch + 1) := by
  have kept : ∀ before : Request, (before.abort .sessionInvalidated).purpose = before.purpose ∧
      (before.abort .sessionInvalidated).epoch = before.epoch ∧
        (before.abort .sessionInvalidated).point = before.point := by
    intro before
    unfold Request.abort
    split
    · exact ⟨rfl, rfl, rfl⟩
    · exact ⟨rfl, rfl, rfl⟩
  constructor
  · intro other member
    obtain ⟨before, old, rfl⟩ := List.mem_map.mp member
    rw [(kept before).2.1]
    exact Nat.le_succ_of_le (fit.epoch_le before old)
  · intro other member refresh point
    obtain ⟨before, old, rfl⟩ := List.mem_map.mp member
    rw [(kept before).2.2] at point
    rw [(kept before).2.1]
    exact fit.waiting before old refresh point
  · intro index other isOther isRefresh unreleased
    rw [List.getElem?_map] at isOther
    obtain ⟨before, isBefore, rfl⟩ := Option.map_eq_some_iff.mp isOther
    rw [(kept before).1] at isRefresh
    rw [(kept before).2.2] at unreleased
    exact fit.promised index before isBefore isRefresh unreleased
  · intro other member isActive _
    obtain ⟨before, -, rfl⟩ := List.mem_map.mp member
    unfold Request.abort at isActive ⊢
    by_cases wasActive : before.isActive = true
    · rw [if_pos wasActive]
      cases before.aborted <;> rfl
    · rw [if_neg wasActive] at isActive
      exact absurd isActive wasActive
  · intro index other first second isFirst isSecond firstLogin secondLogin same
    rw [List.getElem?_map] at isFirst isSecond
    obtain ⟨before, isBefore, rfl⟩ := Option.map_eq_some_iff.mp isFirst
    obtain ⟨also, isAlso, rfl⟩ := Option.map_eq_some_iff.mp isSecond
    rw [(kept before).1] at firstLogin
    rw [(kept also).1] at secondLogin
    rw [(kept before).2.1, (kept also).2.1] at same
    exact fit.oneLogin index other before also isBefore isAlso firstLogin secondLogin same

/-- A new request. -/
theorem RequestsFit.append
    (fit : RequestsFit requests refreshes authRefreshPromise sessionEpoch)
    (isEpoch : request.epoch = sessionEpoch) (isFetching : request.point = .fetching)
    (keeps : ∀ index, authRefreshPromise = some index → promise = some index)
    (promises : request.purpose = .refresh → promise = some requests.length)
    (first : request.purpose.isLogin = true → ∀ other ∈ requests, other.purpose.isLogin = true →
      other.epoch ≠ sessionEpoch) :
    RequestsFit (requests ++ [request]) refreshes promise sessionEpoch := by
  constructor
  · intro other member
    rcases List.mem_append.mp member with old | new
    · exact fit.epoch_le other old
    · rw [List.mem_singleton.mp new]
      exact Nat.le_of_eq isEpoch
  · intro other member refresh point
    rcases List.mem_append.mp member with old | new
    · exact fit.waiting other old refresh point
    · rw [List.mem_singleton.mp new, isFetching] at point
      cases point
  · intro index other isOther isRefresh unreleased
    rcases getElem?_append_one isOther with old | ⟨rfl, rfl⟩
    · exact keeps index (fit.promised index other old isRefresh unreleased)
    · exact promises isRefresh
  · intro other member isActive past
    rcases List.mem_append.mp member with old | new
    · exact fit.aborted other old isActive past
    · rw [List.mem_singleton.mp new] at past
      exact absurd isEpoch past
  · intro index other one two isOne isTwo oneLogin twoLogin same
    rcases getElem?_append_one isOne with old | ⟨rfl, rfl⟩
    · rcases getElem?_append_one isTwo with alsoOld | ⟨rfl, rfl⟩
      · exact fit.oneLogin index other one two old alsoOld oneLogin twoLogin same
      · exact absurd (same.trans isEpoch) (first twoLogin one (List.mem_of_getElem? old) oneLogin)
    · rcases getElem?_append_one isTwo with old | ⟨rfl, rfl⟩
      · exact absurd (same.symm.trans isEpoch)
          (first oneLogin two (List.mem_of_getElem? old) twoLogin)
      · rfl

/-- The refreshes that requests wait for are still there. -/
theorem RequestsFit.mono
    (fit : RequestsFit requests refreshes authRefreshPromise sessionEpoch)
    {others : List Refresh} (still : ∀ (id : Nat) (refresh : Refresh),
      refreshes[id]? = some refresh →
        ∃ later, others[id]? = some later ∧ later.epoch = refresh.epoch) :
    RequestsFit requests others authRefreshPromise sessionEpoch := by
  refine { fit with waiting := ?_ }
  intro request member id point
  obtain ⟨refresh, found, same⟩ := fit.waiting request member id point
  obtain ⟨later, isLater, sameEpoch⟩ := still id refresh found
  exact ⟨later, isLater, sameEpoch.trans same⟩

end

/-! ### Refreshes -/

section

variable {refreshes : List Refresh} {refreshPromise : Option Nat} {sessionEpoch id : Nat}
variable {refresh : Refresh}

/-- A refresh may move on and be aborted, and its promise be given up once it is settled. -/
theorem RefreshesFit.modify (fit : RefreshesFit refreshes refreshPromise sessionEpoch)
    (found : refreshes[id]? = some refresh) {change : Refresh → Refresh}
    (epoch : ∀ before, (change before).epoch = before.epoch)
    (refreshing : (change refresh).isRefreshing = true → refresh.isRefreshing = true)
    (promised : promise = refreshPromise ∨
      promise = none ∧ refreshPromise = some id ∧ (change refresh).isRefreshing = false) :
    RefreshesFit (refreshes.modify id change) promise sessionEpoch := by
  constructor
  · intro other member
    rcases mem_modify found member with old | rfl
    · exact fit.epoch_le other old
    · rw [epoch]
      exact fit.epoch_le refresh (List.mem_of_getElem? found)
  · intro index other isOther isRefreshing
    obtain ⟨before, isBefore, rfl⟩ := getElem?_modify_some isOther
    by_cases here : id = index
    · obtain rfl : refresh = before := by
        rw [here, isBefore] at found
        exact (Option.some.inj found).symm
      rw [if_pos here] at isRefreshing ⊢
      rw [epoch]
      obtain ⟨current, isPromise⟩ := fit.pending index refresh isBefore (refreshing isRefreshing)
      refine ⟨current, ?_⟩
      rcases promised with same | ⟨-, -, settled⟩
      · exact same.trans isPromise
      · rw [settled] at isRefreshing
        cases isRefreshing
    · rw [if_neg here] at isRefreshing ⊢
      obtain ⟨current, isPromise⟩ := fit.pending index before isBefore isRefreshing
      refine ⟨current, ?_⟩
      rcases promised with same | ⟨-, other, -⟩
      · exact same.trans isPromise
      · exact absurd (Option.some.inj (other.symm.trans isPromise)) here
  · intro index isPromise
    rcases promised with rfl | ⟨none, -, -⟩
    · obtain ⟨other, isOther, current⟩ := fit.promised index isPromise
      refine ⟨if id = index then change other else other, ?_, ?_⟩
      · rw [List.getElem?_modify, isOther]
        rfl
      · split
        · exact (epoch other).trans current
        · exact current
    · rw [none] at isPromise
      cases isPromise

/-- The session is invalidated, and the refresh that is promised is aborted. -/
theorem RefreshesFit.invalidate (fit : RefreshesFit refreshes refreshPromise sessionEpoch)
    {others : List Refresh} (aborted : ∀ (index : Nat) (later : Refresh),
      others[index]? = some later → ∃ before, refreshes[index]? = some before ∧
        later.epoch = before.epoch ∧ (later.isRefreshing = true →
          before.isRefreshing = true ∧ refreshPromise ≠ some index)) :
    RefreshesFit others none (sessionEpoch + 1) := by
  refine ⟨?_, ?_, nofun⟩
  · intro later member
    obtain ⟨index, isLater⟩ := List.mem_iff_getElem?.mp member
    obtain ⟨before, isBefore, same, -⟩ := aborted index later isLater
    rw [same]
    exact Nat.le_succ_of_le (fit.epoch_le before (List.mem_of_getElem? isBefore))
  · intro index later isLater isRefreshing
    obtain ⟨before, isBefore, -, refreshing⟩ := aborted index later isLater
    obtain ⟨wasRefreshing, unpromised⟩ := refreshing isRefreshing
    exact absurd (fit.pending index before isBefore wasRefreshing).2 unpromised

/-- A new refresh, where there is no promise. -/
theorem RefreshesFit.append (fit : RefreshesFit refreshes none sessionEpoch)
    (isEpoch : refresh.epoch = sessionEpoch) :
    RefreshesFit (refreshes ++ [refresh]) (some refreshes.length) sessionEpoch := by
  constructor
  · intro other member
    rcases List.mem_append.mp member with old | new
    · exact fit.epoch_le other old
    · rw [List.mem_singleton.mp new]
      exact Nat.le_of_eq isEpoch
  · intro index other isOther isRefreshing
    rcases getElem?_append_one isOther with old | ⟨rfl, rfl⟩
    · exact absurd (fit.pending index other old isRefreshing).2 nofun
    · exact ⟨isEpoch, rfl⟩
  · intro index isPromise
    obtain rfl := Option.some.inj isPromise
    exact ⟨refresh, List.getElem?_concat_length, isEpoch⟩

end

/-! ### The log -/

section

variable {log : List Entry} {requests : List Request} {refreshes : List Refresh}
variable {accessToken : Option String} {sessionEpoch clock : Nat}

theorem lastToken_cons_of_none {entry : Entry} (epoch : Nat)
    (none : entry.tokenIn epoch = .none) :
    lastToken (entry :: log) epoch = lastToken log epoch := by
  unfold lastToken
  rw [List.findSome?_cons, none]

/-- No token was set in an epoch that is yet to come. -/
theorem lastToken_later {epoch : Nat} (past : ∀ entry ∈ log, entry.epoch < epoch) :
    lastToken log epoch = none := by
  unfold lastToken
  have nothing : log.findSome? (Entry.tokenIn epoch) = none := by
    rw [List.findSome?_eq_none_iff]
    intro entry member
    unfold Entry.tokenIn
    split
    · exact if_neg (Nat.ne_of_lt (past entry member))
    · rfl
  rw [nothing]
  rfl

/-- The entries that keep the epochs. -/
structure Effect.Fits (effect : Effect) (log : List Entry) (requests : List Request)
    (sessionEpoch : Nat) : Prop where
  resolved : ∀ epoch payload, effect = .resolved epoch payload → epoch = sessionEpoch
  unauthorized : ∀ epoch, effect = .unauthorized epoch → epoch = sessionEpoch
  retried : ∀ epoch token, effect = .retried epoch token → epoch = sessionEpoch ∧
    ∃ earlier ∈ log, earlier.epoch = epoch ∧
      ∃ began, earlier.effect = .tokenSet (.refresh began) (some token)
  login : effect.isLogin = true → ∃ request ∈ requests,
    request.purpose.isLogin = true ∧ request.epoch = sessionEpoch ∧ request.point = .resumed

theorem KeepsEpochs.cons (keeps : KeepsEpochs log) {effect : Effect}
    (fits : effect.Fits log requests sessionEpoch) :
    KeepsEpochs (⟨clock, sessionEpoch, effect⟩ :: log) := by
  constructor
  · intro entry member
    rcases List.mem_cons.mp member with rfl | old
    · exact fits.resolved
    · exact keeps.resolved entry old
  · intro entry member
    rcases List.mem_cons.mp member with rfl | old
    · exact fits.unauthorized
    · exact keeps.unauthorized entry old
  · intro entry member epoch token isEffect
    rcases List.mem_cons.mp member with rfl | old
    · obtain ⟨same, earlier, isEarlier, set⟩ := fits.retried epoch token isEffect
      exact ⟨same, earlier, List.mem_cons_of_mem _ isEarlier, set⟩
    · obtain ⟨same, earlier, isEarlier, set⟩ := keeps.retried entry old epoch token isEffect
      exact ⟨same, earlier, List.mem_cons_of_mem _ isEarlier, set⟩

/-- One more entry. -/
theorem LogFits.cons (fit : LogFits log requests refreshes accessToken sessionEpoch clock)
    {effect : Effect} (fits : effect.Fits log requests sessionEpoch) {token : Option String}
    (held : token = lastToken (⟨clock, sessionEpoch, effect⟩ :: log) sessionEpoch) :
    LogFits (⟨clock, sessionEpoch, effect⟩ :: log) requests refreshes token sessionEpoch
      clock := by
  constructor
  · intro entry member
    rcases List.mem_cons.mp member with rfl | old
    · exact Nat.le_refl sessionEpoch
    · exact fit.epoch_le entry old
  · intro entry member
    rcases List.mem_cons.mp member with rfl | old
    · exact Nat.le_refl clock
    · exact fit.clock_le entry old
  · exact held
  · exact fit.keeps.cons fits
  · intro refresh member granted isGranted
    obtain ⟨entry, isEntry, set⟩ := fit.granted refresh member granted isGranted
    exact ⟨entry, List.mem_cons_of_mem _ isEntry, set⟩
  · intro entry member isLogin
    rcases List.mem_cons.mp member with rfl | old
    · exact fits.login isLogin
    · exact fit.loggedIn entry old isLogin

/-- A new epoch. -/
theorem LogFits.invalidate (fit : LogFits log requests refreshes accessToken sessionEpoch clock) :
    LogFits log requests refreshes none (sessionEpoch + 1) clock := by
  refine { fit with epoch_le := ?_, held := ?_ }
  · exact fun entry member => Nat.le_succ_of_le (fit.epoch_le entry member)
  · exact (lastToken_later fun entry member => Nat.lt_succ_of_le (fit.epoch_le entry member)).symm

/-- Logins that are done stay so, and refreshes grant what they granted. -/
theorem LogFits.mono (fit : LogFits log requests refreshes accessToken sessionEpoch clock)
    {others : List Request} {laters : List Refresh}
    (still : ∀ request ∈ requests, request.purpose.isLogin = true → request.point = .resumed →
      ∃ other ∈ others, other.purpose.isLogin = true ∧ other.epoch = request.epoch ∧
        other.point = .resumed)
    (granted : ∀ later ∈ laters, ∀ token, later.point = .settled (some token) →
      (∃ refresh ∈ refreshes, refresh.epoch = later.epoch ∧
        refresh.point = .settled (some token)) ∨
      ∃ entry ∈ log, entry.epoch = later.epoch ∧
        ∃ began, entry.effect = .tokenSet (.refresh began) (some token)) :
    LogFits log others laters accessToken sessionEpoch clock := by
  refine { fit with granted := ?_, loggedIn := ?_ }
  · intro later member token isGranted
    rcases granted later member token isGranted with ⟨refresh, old, same, wasGranted⟩ | set
    · rw [← same]
      exact fit.granted refresh old token wasGranted
    · exact set
  · intro entry member isLogin
    obtain ⟨request, old, wasLogin, same, done⟩ := fit.loggedIn entry member isLogin
    obtain ⟨other, new, isStill, sameEpoch, isDone⟩ := still request old wasLogin done
    exact ⟨other, new, isStill, sameEpoch.trans same, isDone⟩

end

/-! ### What the client does keeps the invariant -/

namespace Consistent

variable {state : State} {id : Nat}

theorem start : Consistent State.start := by
  have noRequest : ∀ request, request ∉ State.start.requests := fun _ => List.not_mem_nil
  have noRefresh : ∀ refresh, refresh ∉ State.start.refreshes := fun _ => List.not_mem_nil
  have noEntry : ∀ entry, entry ∉ State.start.log := fun _ => List.not_mem_nil
  constructor
  · exact ⟨fun _ member => absurd member (noRequest _), fun _ member => absurd member (noRequest _),
      fun _ _ found => absurd (List.mem_of_getElem? found) (noRequest _),
      fun _ member => absurd member (noRequest _),
      fun _ _ _ _ found => absurd (List.mem_of_getElem? found) (noRequest _)⟩
  · exact ⟨fun _ member => absurd member (noRefresh _),
      fun _ _ found => absurd (List.mem_of_getElem? found) (noRefresh _), fun _ none => by cases none⟩
  · exact ⟨fun _ member => absurd member (noEntry _), fun _ member => absurd member (noEntry _), rfl,
      ⟨fun _ member => absurd member (noEntry _), fun _ member => absurd member (noEntry _),
        fun _ member => absurd member (noEntry _)⟩,
      fun _ member => absurd member (noRefresh _), fun _ member => absurd member (noEntry _)⟩

theorem tick (consistent : Consistent state) : Consistent state.tick where
  requests := consistent.requests
  refreshes := consistent.refreshes
  log := { consistent.log with
    clock_le := fun entry member => Nat.le_succ_of_le (consistent.log.clock_le entry member) }

theorem logout (consistent : Consistent state) (token : Option String) :
    Consistent { state with logoutToken := token } :=
  ⟨consistent.requests, consistent.refreshes, consistent.log⟩

variable {request : Request}

/-- A request moves on. -/
theorem moveTo (consistent : Consistent state) {point : RequestPoint}
    (found : state.requests[id]? = some request)
    (unfinished : request.point ≠ .resumed ∧ request.point ≠ .released)
    (waits : ∀ refresh, point = .waiting refresh →
      ∃ found, state.refreshes[refresh]? = some found ∧ found.epoch = request.epoch)
    (active : { request with point }.isActive = true → request.isActive = true) :
    Consistent (state.moveTo id point) where
  requests := consistent.requests.modify found (fun _ => rfl) (fun _ => rfl) waits
    (fun _ => unfinished.2) active fun aborted => aborted
  refreshes := consistent.refreshes
  log := by
    refine consistent.log.mono ?_ fun later member token granted =>
      Or.inl ⟨later, member, rfl, granted⟩
    intro other member isLogin done
    have different : other ≠ request := by
      rintro rfl
      exact unfinished.1 done
    exact ⟨other, mem_modify_of_ne found member different, isLogin, rfl, done⟩

/-- An effect is logged that sets no token. -/
theorem note (consistent : Consistent state) {effect : Effect}
    (fits : effect.Fits state.log state.requests state.sessionEpoch)
    (sets : ∀ setter token, effect ≠ .tokenSet setter token) : Consistent (state.note effect) where
  requests := consistent.requests
  refreshes := consistent.refreshes
  log := by
    refine consistent.log.cons fits ?_
    rw [lastToken_cons_of_none]
    · exact consistent.log.held
    · unfold Entry.tokenIn
      cases effect with
      | tokenSet setter token => exact absurd rfl (sets setter token)
      | resolved => rfl
      | unauthorized => rfl
      | retried => rfl

/-- A token is set. -/
theorem set (consistent : Consistent state) {setter : Setter} (token : Option String)
    (login : (Effect.tokenSet setter token).isLogin = true → ∃ request ∈ state.requests,
      request.purpose.isLogin = true ∧ request.epoch = state.sessionEpoch ∧
        request.point = .resumed) :
    Consistent ({ state with accessToken := token }.note (.tokenSet setter token)) where
  requests := consistent.requests
  refreshes := consistent.refreshes
  log := by
    refine consistent.log.cons ⟨fun _ _ same => ?_, fun _ same => ?_, fun _ _ same => ?_, login⟩ ?_
    · cases same
    · cases same
    · cases same
    unfold lastToken Entry.tokenIn
    rw [List.findSome?_cons]
    dsimp only
    rw [if_pos rfl]
    rfl

/-- The session is invalidated. -/
theorem invalidateSession (consistent : Consistent state) :
    Consistent state.invalidateSession := by
  have kept : ∀ (index : Nat) (later : Refresh),
      state.invalidateSession.refreshes[index]? = some later →
        ∃ before, state.refreshes[index]? = some before ∧ later.epoch = before.epoch ∧
          later.point = before.point ∧ (later.isRefreshing = true →
            before.isRefreshing = true ∧ state.refreshPromise ≠ some index) := by
    intro index later isLater
    unfold State.invalidateSession at isLater
    cases promise : state.refreshPromise with
    | none =>
      rw [promise] at isLater
      exact ⟨later, isLater, rfl, rfl, fun refreshing => ⟨refreshing, nofun⟩⟩
    | some promised =>
      rw [promise] at isLater
      obtain ⟨before, isBefore, rfl⟩ := getElem?_modify_some isLater
      refine ⟨before, isBefore, ?_⟩
      by_cases here : promised = index
      · rw [if_pos here]
        refine ⟨rfl, rfl, fun refreshing => ?_⟩
        unfold Refresh.isRefreshing at refreshing
        rw [Bool.and_eq_true] at refreshing
        cases refreshing.2
      · rw [if_neg here]
        exact ⟨rfl, rfl, fun refreshing => ⟨refreshing, fun same => here (Option.some.inj same)⟩⟩
  have requests : state.invalidateSession.requests =
      state.requests.map (Request.abort .sessionInvalidated) := rfl
  have log : state.invalidateSession.log = state.log := by
    unfold State.invalidateSession
    cases state.refreshPromise <;> rfl
  have clock : state.invalidateSession.clock = state.clock := by
    unfold State.invalidateSession
    cases state.refreshPromise <;> rfl
  have promise : state.invalidateSession.authRefreshPromise = state.authRefreshPromise := by
    unfold State.invalidateSession
    cases state.refreshPromise <;> rfl
  constructor
  · rw [requests, promise]
    refine consistent.requests.invalidate.mono fun index before isBefore => ?_
    unfold State.invalidateSession
    cases state.refreshPromise with
    | none => exact ⟨before, isBefore, rfl⟩
    | some promised =>
      dsimp only [State.abortRefresh]
      rw [List.getElem?_modify, isBefore]
      refine ⟨_, rfl, ?_⟩
      split <;> rfl
  · refine consistent.refreshes.invalidate fun index later isLater => ?_
    obtain ⟨before, isBefore, same, -, refreshing⟩ := kept index later isLater
    exact ⟨before, isBefore, same, refreshing⟩
  · rw [log, clock]
    refine consistent.log.invalidate.mono ?_ ?_
    · intro request member isLogin done
      refine ⟨request.abort .sessionInvalidated, List.mem_map_of_mem member, ?_⟩
      unfold Request.abort
      split
      · exact ⟨isLogin, rfl, done⟩
      · exact ⟨isLogin, rfl, done⟩
    · intro later member token granted
      obtain ⟨index, isLater⟩ := List.mem_iff_getElem?.mp member
      obtain ⟨before, isBefore, same, point, -⟩ := kept index later isLater
      exact Or.inl ⟨before, List.mem_of_getElem? isBefore, same.symm, point.symm.trans granted⟩

/-- A request is made. -/
theorem openRequest (consistent : Consistent state) {purpose : Purpose} (suppress : Bool)
    (token : Option String) (other : purpose ≠ .refresh)
    (first : purpose.isLogin = true → ∀ request ∈ state.requests, request.epoch ≠ state.sessionEpoch) :
    Consistent (state.openRequest purpose suppress token) where
  requests := consistent.requests.append rfl rfl (fun _ promise => promise)
    (fun isRefresh => absurd isRefresh other) fun isLogin request member _ =>
      first isLogin request member
  refreshes := consistent.refreshes
  log := consistent.log.mono (fun request member isLogin done =>
      ⟨request, List.mem_append_left _ member, isLogin, rfl, done⟩)
    fun later member _ granted => Or.inl ⟨later, member, rfl, granted⟩

/-- `AuthService.refresh` makes its request. -/
theorem openAuthRefresh (consistent : Consistent state) (token : Option String)
    (free : state.authRefreshPromise = none) :
    Consistent { state.openRequest .refresh true token with
      authRefreshPromise := some state.requests.length } where
  requests := consistent.requests.append rfl rfl (fun _ promise => by
      rw [free] at promise
      cases promise)
    (fun _ => rfl) nofun
  refreshes := consistent.refreshes
  log := consistent.log.mono (fun request member isLogin done =>
      ⟨request, List.mem_append_left _ member, isLogin, rfl, done⟩)
    fun later member _ granted => Or.inl ⟨later, member, rfl, granted⟩

/-- The client begins a refresh. -/
theorem openRefresh (consistent : Consistent state) (free : state.refreshPromise = none) :
    Consistent state.openRefresh where
  requests := consistent.requests.mono fun index before isBefore =>
    ⟨before, (List.getElem?_append_left (List.getElem?_eq_some_iff.mp isBefore).1).trans isBefore,
      rfl⟩
  refreshes := by
    have fit := consistent.refreshes
    rw [free] at fit
    exact fit.append rfl
  log := consistent.log.mono (fun request member isLogin done =>
      ⟨request, member, isLogin, rfl, done⟩) fun later member _ granted => by
    rcases List.mem_append.mp member with old | new
    · exact Or.inl ⟨later, old, rfl, granted⟩
    · rw [List.mem_singleton.mp new] at granted
      cases granted

/-- A refresh moves on, and is aborted. -/
theorem modifyRefresh (consistent : Consistent state) {refresh : Refresh}
    (found : state.refreshes[id]? = some refresh) {change : Refresh → Refresh}
    (epoch : ∀ before, (change before).epoch = before.epoch)
    (refreshing : (change refresh).isRefreshing = true → refresh.isRefreshing = true)
    (promised : promise = state.refreshPromise ∨
      promise = none ∧ state.refreshPromise = some id ∧ (change refresh).isRefreshing = false)
    (granted : ∀ token, (change refresh).point = .settled (some token) →
      refresh.point = .settled (some token) ∨ ∃ entry ∈ state.log, entry.epoch = refresh.epoch ∧
        ∃ began, entry.effect = .tokenSet (.refresh began) (some token)) :
    Consistent { state with
      refreshes := state.refreshes.modify id change, refreshPromise := promise } where
  requests := consistent.requests.mono fun index before isBefore => by
    dsimp only
    rw [List.getElem?_modify, isBefore]
    refine ⟨_, rfl, ?_⟩
    split
    · exact epoch before
    · rfl
  refreshes := consistent.refreshes.modify found epoch refreshing promised
  log := consistent.log.mono (fun request member isLogin done =>
      ⟨request, member, isLogin, rfl, done⟩) fun later member token isGranted => by
    rcases mem_modify found member with old | rfl
    · exact Or.inl ⟨later, old, rfl, isGranted⟩
    · rw [epoch]
      rcases granted token isGranted with was | set
      · exact Or.inl ⟨refresh, List.mem_of_getElem? found, rfl, was⟩
      · exact Or.inr set

/-- What a settled refresh grants was set in its epoch. -/
theorem refreshResult (consistent : Consistent state) {refresh : Nat}
    (member : request ∈ state.requests) (waits : request.point = .waiting refresh)
    {token : Option String} (result : state.refreshResult refresh = some token) :
    ∀ given, token = some given → ∃ entry ∈ state.log, entry.epoch = request.epoch ∧
      ∃ began, entry.effect = .tokenSet (.refresh began) (some given) := by
  rintro given rfl
  obtain ⟨found, isFound, same⟩ := consistent.requests.waiting request member refresh waits
  unfold State.refreshResult at result
  rw [isFound] at result
  dsimp only at result
  split at result
  · rename_i point
    obtain rfl := Option.some.inj result
    rw [← same]
    exact consistent.log.granted found (List.mem_of_getElem? isFound) given point
  · cases result

/-- A request is aborted. -/
theorem abort (consistent : Consistent state)
    (found : state.requests[id]? = some request) (isActive : request.isActive = true)
    (reason : AbortReason) : Consistent { state with
      requests := state.requests.modify id (Request.abort reason) } where
  requests := by
    have change : request.abort reason =
        { request with aborted := request.aborted.or (some reason) } := if_pos isActive
    refine consistent.requests.modify found ?_ ?_ ?_ ?_ ?_ ?_
    · intro before
      unfold Request.abort
      split <;> rfl
    · intro before
      unfold Request.abort
      split <;> rfl
    · rw [change]
      exact consistent.requests.waiting request (List.mem_of_getElem? found)
    · rw [change]
      exact fun unreleased => unreleased
    · exact fun _ => isActive
    · intro aborted
      rw [change]
      cases was : request.aborted with
      | none => rfl
      | some first => rfl
  refreshes := consistent.refreshes
  log := by
    refine consistent.log.mono ?_ fun later member token granted =>
      Or.inl ⟨later, member, rfl, granted⟩
    intro other member isLogin done
    have different : other ≠ request := by
      rintro rfl
      unfold Request.isActive at isActive
      rw [done] at isActive
      cases isActive
    exact ⟨other, mem_modify_of_ne found member different, isLogin, rfl, done⟩

/-- `AuthService.refresh` gives up its promise. -/
theorem release (consistent : Consistent state)
    (found : state.requests[id]? = some request) (point : request.point = .resumed)
    (purpose : request.purpose = .refresh) : Consistent { state.moveTo id .released with
      authRefreshPromise :=
        if state.authRefreshPromise = some id then none else state.authRefreshPromise } where
  requests := by
    have promise := consistent.requests.promised id request found purpose (by rw [point]; nofun)
    have moved : RequestsFit (state.moveTo id .released).requests state.refreshes
        state.authRefreshPromise state.sessionEpoch :=
      consistent.requests.modify found (fun _ => rfl) (fun _ => rfl) nofun
        (fun same => absurd rfl same) nofun fun aborted => aborted
    rw [if_pos promise]
    refine { moved with promised := fun index other isOther isRefresh unreleased => ?_ }
    -- The request with the promise is the one that is released.
    obtain rfl : index = id := Option.some.inj
      ((moved.promised index other isOther isRefresh unreleased).symm.trans promise)
    obtain ⟨before, -, rfl⟩ := getElem?_modify_some isOther
    rw [if_pos rfl] at unreleased
    exact absurd rfl unreleased
  refreshes := consistent.refreshes
  log := by
    refine consistent.log.mono ?_ fun later member token granted =>
      Or.inl ⟨later, member, rfl, granted⟩
    intro other member isLogin done
    have different : other ≠ request := by
      rintro rfl
      rw [purpose] at isLogin
      cases isLogin
    exact ⟨other, mem_modify_of_ne found member different, isLogin, rfl, done⟩

end Consistent

end ClientSessions

end CareerOS
