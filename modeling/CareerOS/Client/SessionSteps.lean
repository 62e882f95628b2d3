/-
This file goes through the functions of the client once. What they do is put together
from a few changes, so a property that the changes keep is kept by every step; where a
change is not harmless for the property, the property says when it is.
-/

import CareerOS.Client.SessionInvariant

namespace CareerOS

namespace ClientSessions

/-! ### Changes -/

/-- May `AuthService.refresh` still set a token when its request is there? -/
def RequestPoint.mayGrant : RequestPoint → Bool
  | .readingError | .settled .failed | .settled .noContent | .settled (.data .null)
  | .settled (.data (.value none)) | .resumed | .released => false
  | .fetching | .waiting _ | .retrying _ | .answered _ | .reading
  | .settled (.data (.value (some _))) => true

/-- A request that may still be answered with data. -/
structure Request.Running (request : Request) : Prop where
  active : request.isActive = true
  mayGrant : request.point.mayGrant = true

/-- How a request may move on. -/
structure Moves (state : State) (request : Request) (point : RequestPoint) : Prop where
  unfinished : request.point ≠ .resumed ∧ request.point ≠ .released
  waits : ∀ refresh, point = .waiting refresh →
    ∃ found, state.refreshes[refresh]? = some found ∧ found.epoch = request.epoch
  active : { request with point }.isActive = true → request.isActive = true
  mayGrant : point.mayGrant = true → request.point.mayGrant = true

/-- How a refresh of the client, and the promise of it, may change. -/
structure RefreshMoves (state : State) (id : Nat) (refresh : Refresh)
    (change : Refresh → Refresh) (promise : Option Nat) : Prop where
  epoch : ∀ before, (change before).epoch = before.epoch
  began : ∀ before, (change before).began = before.began
  refreshing : (change refresh).isRefreshing = true → refresh.isRefreshing = true
  promised : promise = state.refreshPromise ∨
    promise = none ∧ state.refreshPromise = some id ∧ (change refresh).isRefreshing = false
  granted : ∀ token, (change refresh).point = .settled (some token) →
    refresh.point = .settled (some token) ∨ ∃ entry ∈ state.log, entry.epoch = refresh.epoch ∧
      ∃ began, entry.effect = .tokenSet (.refresh began) (some token)

/-- A property that the changes keep: a refresh may begin, and a login complete, where the property
says so, and a refresh that is under way may set the token. -/
structure Keeps (property : State → Prop) (begins logsIn : State → Prop)
    (grants : List Entry → Nat → Nat → Prop) : Prop where
  consistent : ∀ {state}, property state → Consistent state
  logout : ∀ {state} token, property state → property { state with logoutToken := token }
  moveTo : ∀ {state id request point}, property state → state.requests[id]? = some request →
    Moves state request point → property (state.moveTo id point)
  note : ∀ {state effect}, property state →
    effect.Fits state.log state.requests state.sessionEpoch →
      (∀ setter token, effect ≠ .tokenSet setter token) → property (state.note effect)
  login : ∀ {state} {request : Request} {setter} token, property state → logsIn state →
    request ∈ state.requests → request.purpose.isLogin = true →
      request.epoch = state.sessionEpoch → request.point = .resumed →
        (Effect.tokenSet setter (some token)).isLogin = true →
          property (state.setToken setter token)
  refresh : ∀ {state began} token, property state → grants state.log state.sessionEpoch began →
    property (state.setToken (.refresh began) token)
  maintenance : ∀ {state} token, property state → property (state.bindMaintenanceToken token)
  invalidateSession : ∀ {state}, property state → property state.invalidateSession
  openRequest : ∀ {state} {purpose : Purpose} suppress token, property state →
    purpose ≠ .refresh → (purpose.isLogin = true → ∀ request ∈ state.requests,
      request.epoch ≠ state.sessionEpoch) → property (state.openRequest purpose suppress token)
  openAuthRefresh : ∀ {state} token, property state → state.authRefreshPromise = none →
    begins state → property { state.openRequest .refresh true token with
      authRefreshPromise := some state.requests.length }
  openRefresh : ∀ {state}, property state → state.refreshPromise = none → begins state →
    property state.openRefresh
  modifyRefresh : ∀ {state id refresh change promise}, property state →
    state.refreshes[id]? = some refresh → RefreshMoves state id refresh change promise →
      property { state with
        refreshes := state.refreshes.modify id change, refreshPromise := promise }
  abort : ∀ {state id request} reason, property state → state.requests[id]? = some request →
    request.isActive = true →
      property { state with requests := state.requests.modify id (Request.abort reason) }
  release : ∀ {state id request}, property state → state.requests[id]? = some request →
    request.point = .resumed → request.purpose = .refresh →
      property { state.moveTo id .released with
        authRefreshPromise :=
          if state.authRefreshPromise = some id then none else state.authRefreshPromise }
  authGrants : ∀ {state request}, property state → request ∈ state.requests →
    request.purpose = .refresh → request.point.mayGrant = true →
      request.epoch = state.sessionEpoch → grants state.log state.sessionEpoch request.began
  refreshGrants : ∀ {state refresh}, property state → refresh ∈ state.refreshes →
    refresh.isRefreshing = true → grants state.log state.sessionEpoch refresh.began

/-- Does the answer of a request begin a refresh? -/
def State.beginsRefresh (state : State) (request : Request) (status : Nat) : Bool :=
  request.point = .fetching && status = 401 && !request.suppressUnauthorizedRefresh &&
    state.isCurrent request && state.refreshPromise.isNone

/-- Does a login or a registration complete with a token when its service goes on? -/
def State.completesLogin (state : State) (request : Request) : Bool :=
  request.purpose.isLogin && request.epoch = state.sessionEpoch &&
    match request.point with
    | .settled (.data (.value (some _))) => true
    | _ => false

/-- A step that may be taken: where it begins a refresh, or completes a login, it may do so. -/
structure Permits (begins logsIn : State → Prop) (state : State) (action : Action) : Prop where
  authRefresh : action = .authRefresh → state.authRefreshPromise = none → begins state
  respond : ∀ id status request, action = .respond id status →
    state.requests[id]? = some request → state.beginsRefresh request status = true → begins state
  resume : ∀ id request, action = .resume id → state.requests[id]? = some request →
    state.completesLogin request = true →
      logsIn { state.moveTo id .resumed with logoutToken := none }

/-- The invariant is kept without conditions. -/
theorem keeps_consistent : Keeps Consistent (fun _ => True) (fun _ => True)
    fun _ _ _ => True where
  consistent := fun consistent => consistent
  logout := fun token consistent => consistent.logout token
  moveTo := fun consistent found moves =>
    consistent.moveTo found moves.unfinished moves.waits moves.active
  note := fun consistent fits sets => consistent.note fits sets
  login := fun token consistent _ member isLogin epoch point _ =>
    consistent.set (some token) fun _ => ⟨_, member, isLogin, epoch, point⟩
  refresh := fun token consistent _ => consistent.set (some token) nofun
  maintenance := fun token consistent => consistent.invalidateSession.set token nofun
  invalidateSession := fun consistent => consistent.invalidateSession
  openRequest := fun suppress token consistent other first =>
    consistent.openRequest suppress token other first
  openAuthRefresh := fun token consistent free _ => consistent.openAuthRefresh token free
  openRefresh := fun consistent free _ => consistent.openRefresh free
  modifyRefresh := fun consistent found moves =>
    consistent.modifyRefresh found moves.epoch moves.refreshing moves.promised moves.granted
  abort := fun reason consistent found isActive => consistent.abort found isActive reason
  release := fun consistent found point purpose => consistent.release found point purpose
  authGrants := fun _ _ _ _ _ => trivial
  refreshGrants := fun _ _ _ => trivial

/-! ### Functions -/

variable {action : Action}

namespace Keeps

variable {property begins logsIn : State → Prop} {grants : List Entry → Nat → Nat → Prop}
variable {state : State} {id : Nat} {request : Request}

/-- A request that is running moves on. -/
theorem moveOn (keeps : Keeps property begins logsIn grants) (holds : property state)
    (found : state.requests[id]? = some request) (running : request.Running)
    {point : RequestPoint} (waits : ∀ refresh, point = .waiting refresh →
      ∃ found, state.refreshes[refresh]? = some found ∧ found.epoch = request.epoch) :
    property (state.moveTo id point) := by
  refine keeps.moveTo holds found ⟨⟨?_, ?_⟩, waits, fun _ => running.active,
    fun _ => running.mayGrant⟩
  · intro done
    have mayGrant := running.mayGrant
    rw [done] at mayGrant
    cases mayGrant
  · intro done
    have mayGrant := running.mayGrant
    rw [done] at mayGrant
    cases mayGrant

theorem handleUnauthorized (keeps : Keeps property begins logsIn grants) (holds : property state)
    (found : state.requests[id]? = some request) (running : request.Running)
    (may : state.isCurrent request = true → state.refreshPromise = none → begins state) :
    property (state.handleUnauthorized id request) := by
  unfold State.handleUnauthorized
  split
  · rename_i isCurrent
    have current := isCurrent
    unfold State.isCurrent at current
    rw [Bool.and_eq_true, decide_eq_true_eq] at current
    split
    · rename_i refresh promise
      refine keeps.moveOn holds found running fun other same => ?_
      obtain rfl := RequestPoint.waiting.inj same
      obtain ⟨promised, isPromised, epoch⟩ :=
        (keeps.consistent holds).refreshes.promised refresh promise
      exact ⟨promised, isPromised, epoch.trans current.1.symm⟩
    · rename_i promise
      have opened := keeps.openRefresh holds promise (may isCurrent promise)
      refine keeps.moveOn opened found running fun other same => ?_
      obtain rfl := RequestPoint.waiting.inj same
      exact ⟨_, List.getElem?_concat_length, current.1.symm⟩
  · exact keeps.moveOn holds found running nofun

theorem receive (keeps : Keeps property begins logsIn grants) (holds : property state)
    (found : state.requests[id]? = some request) (running : request.Running) (status : Nat) :
    property (state.receive id request status) := by
  unfold State.receive
  split
  · exact keeps.moveOn holds found running nofun
  · split
    · split
      · exact keeps.moveOn holds found running nofun
      · exact keeps.moveOn holds found running nofun
    · exact keeps.moveOn holds found running nofun

theorem afterFetch (keeps : Keeps property begins logsIn grants) (holds : property state)
    (found : state.requests[id]? = some request) (running : request.Running) {status : Nat}
    (may : status = 401 → request.suppressUnauthorizedRefresh = false →
      state.isCurrent request = true → state.refreshPromise = none → begins state) :
    property (state.afterFetch id request status) := by
  unfold State.afterFetch
  split
  · rename_i refused
    exact keeps.handleUnauthorized holds found running (may refused.1 refused.2)
  · exact keeps.receive holds found running status

/-- The unauthorized event is raised in the epoch of the request. -/
theorem unauthorized (keeps : Keeps property begins logsIn grants) (holds : property state)
    (found : state.requests[id]? = some request) (running : request.Running)
    (current : state.isCurrent request = true) :
    property ((state.note (.unauthorized request.epoch)).moveTo id (.answered none)) := by
  unfold State.isCurrent at current
  rw [Bool.and_eq_true, decide_eq_true_eq] at current
  have noted : property (state.note (.unauthorized request.epoch)) := by
    refine keeps.note holds ⟨?_, ?_, ?_, nofun⟩ nofun
    · exact fun _ _ same => by cases same
    · exact fun _ same => (Effect.unauthorized.inj same).symm.trans current.1
    · exact fun _ _ same => by cases same
  exact keeps.moveOn noted found running nofun

theorem afterRefresh (keeps : Keeps property begins logsIn grants) (holds : property state)
    (found : state.requests[id]? = some request) (running : request.Running)
    {token : Option String} (granted : ∀ given, token = some given → ∃ entry ∈ state.log,
      entry.epoch = request.epoch ∧
        ∃ began, entry.effect = .tokenSet (.refresh began) (some given)) :
    property (state.afterRefresh id request token) := by
  unfold State.afterRefresh
  split
  · rename_i given
    split
    · rename_i current
      unfold State.isCurrent at current
      rw [Bool.and_eq_true, decide_eq_true_eq] at current
      have noted : property (state.note (.retried request.epoch given)) := by
        refine keeps.note holds ⟨?_, ?_, ?_, nofun⟩ nofun
        · exact fun _ _ same => by cases same
        · exact fun _ same => by cases same
        · intro epoch other same
          obtain ⟨rfl, rfl⟩ := Effect.retried.inj same
          exact ⟨current.1, granted given rfl⟩
      exact keeps.moveOn noted found running nofun
    · exact keeps.moveOn holds found running nofun
  · split
    · rename_i current
      exact keeps.unauthorized holds found running current
    · exact keeps.moveOn holds found running nofun

theorem afterRetry (keeps : Keeps property begins logsIn grants) (holds : property state)
    (found : state.requests[id]? = some request) (running : request.Running) (status : Nat) :
    property (state.afterRetry id request status) := by
  unfold State.afterRetry
  split
  · rename_i current
    exact keeps.unauthorized holds found running current.2
  · exact keeps.moveOn holds found running nofun

/-- A request, or the service that made it, resolves in its own epoch. -/
theorem resolve (keeps : Keeps property begins logsIn grants) (holds : property state)
    {epoch : Nat} (payload : Payload) (current : epoch = state.sessionEpoch) :
    property (state.note (.resolved epoch payload)) := by
  refine keeps.note holds ⟨?_, ?_, ?_, nofun⟩ nofun
  · exact fun _ _ same => (Effect.resolved.inj same).1.symm.trans current
  · exact fun _ same => by cases same
  · exact fun _ _ same => by cases same

theorem afterRead (keeps : Keeps property begins logsIn grants) (holds : property state)
    (found : state.requests[id]? = some request) (running : request.Running)
    (payload : Payload) : property (state.afterRead id request payload) := by
  unfold State.afterRead
  split
  · rename_i current
    exact keeps.moveOn (keeps.resolve holds payload current) found running nofun
  · exact keeps.moveOn holds found running nofun

variable {outcome : Outcome}

theorem afterLogin (keeps : Keeps property begins logsIn grants) (holds : property state)
    {setter : Setter} {login : Request} (member : login ∈ state.requests)
    (isLogin : login.purpose.isLogin = true) (same : login.epoch = request.epoch)
    (point : login.point = .resumed)
    (sets : ∀ token, (Effect.tokenSet setter (some token)).isLogin = true)
    (may : request.epoch = state.sessionEpoch → ∀ token,
      outcome = .data (.value (some token)) → logsIn { state with logoutToken := none }) :
    property (state.afterLogin setter request outcome) := by
  unfold State.afterLogin
  split
  · exact holds
  · rename_i current
    have current : request.epoch = state.sessionEpoch := Decidable.not_not.mp current
    split
    · rename_i token
      have set : property ({ state with logoutToken := none }.setToken setter token) :=
        keeps.login token (keeps.logout none holds) (may current token rfl) member isLogin
          (same.trans current) point (sets token)
      exact keeps.resolve set _ current
    · exact keeps.resolve holds _ current
    · exact holds
    · exact holds
    · exact holds

theorem afterAuthRefresh (keeps : Keeps property begins logsIn grants) (holds : property state)
    (may : request.epoch = state.sessionEpoch → ∀ token,
      outcome = .data (.value (some token)) → grants state.log state.sessionEpoch request.began) :
    property (state.afterAuthRefresh request outcome) := by
  unfold State.afterAuthRefresh
  split
  · split
    · rename_i token
      split
      · rename_i current
        have set : property ({ state with logoutToken := none }.setToken
            (.refresh request.began) token) :=
          keeps.refresh token (keeps.logout none holds) (may current token rfl)
        exact keeps.resolve set _ current
      · exact holds
    · exact holds
  all_goals
    split
    · exact keeps.invalidateSession holds
    · exact holds

variable {refresh : Refresh}

/-- A refresh of the client is settled. -/
theorem settleRefresh (keeps : Keeps property begins logsIn grants) (holds : property state)
    (found : state.refreshes[id]? = some refresh) {token : Option String}
    (granted : ∀ given, token = some given → ∃ entry ∈ state.log, entry.epoch = refresh.epoch ∧
      ∃ began, entry.effect = .tokenSet (.refresh began) (some given)) :
    property (state.settleRefresh id token) := by
  have given : ∀ other, RefreshPoint.settled token = .settled (some other) →
      refresh.point = .settled (some other) ∨ ∃ entry ∈ state.log, entry.epoch = refresh.epoch ∧
        ∃ began, entry.effect = .tokenSet (.refresh began) (some other) :=
    fun other same => Or.inr (granted other (RefreshPoint.settled.inj same))
  unfold State.settleRefresh
  dsimp only
  split
  · rename_i promise
    exact keeps.modifyRefresh holds found
      ⟨fun _ => rfl, fun _ => rfl, nofun, Or.inr ⟨rfl, promise, rfl⟩, given⟩
  · exact keeps.modifyRefresh holds found
      ⟨fun _ => rfl, fun _ => rfl, nofun, Or.inl rfl, given⟩

theorem afterRefreshRead (keeps : Keeps property begins logsIn grants) (holds : property state)
    (found : state.refreshes[id]? = some refresh)
    (point : refresh.point = .reading) (payload : Payload) :
    property (state.afterRefreshRead id refresh payload) := by
  unfold State.afterRefreshRead
  split
  · rename_i token
    split
    · rename_i current
      have refreshing : refresh.isRefreshing = true := by
        unfold Refresh.isRefreshing Refresh.isPending
        rw [point, current.2]
        rfl
      have set : property (state.setToken (.refresh refresh.began) token) :=
        keeps.refresh token holds
          (keeps.refreshGrants holds (List.mem_of_getElem? found) refreshing)
      refine keeps.settleRefresh set found fun given same => ?_
      refine ⟨_, List.mem_cons_self, current.1.symm, refresh.began, ?_⟩
      rw [Option.some.inj same]
    · exact keeps.settleRefresh holds found nofun
  · exact keeps.settleRefresh holds found nofun
  · exact keeps.settleRefresh holds found nofun

/-! ### Steps -/

/-- What the step of a refresh does. -/
theorem stepRefresh (keeps : Keeps property begins logsIn grants) (holds : property state)
    (found : state.refreshes[id]? = some refresh)
    {next : State} (stepped : state.stepRefresh id refresh action = some next) :
    property next := by
  unfold State.stepRefresh at stepped
  split at stepped
  · split at stepped
    · obtain rfl := Option.some.inj stepped
      refine keeps.modifyRefresh holds found
        ⟨fun _ => rfl, fun _ => rfl, ?_, Or.inl rfl, fun _ => Or.inl⟩
      intro refreshing
      unfold Refresh.isRefreshing at refreshing
      rw [Bool.and_eq_true] at refreshing
      cases refreshing.2
    · cases stepped
  · split at stepped
    · rename_i point
      split at stepped
      · obtain rfl := Option.some.inj stepped
        refine keeps.modifyRefresh holds found ⟨fun _ => rfl, fun _ => rfl, ?_, Or.inl rfl, nofun⟩
        unfold Refresh.isRefreshing Refresh.isPending
        rw [point]
        exact fun same => same
      · obtain rfl := Option.some.inj stepped
        exact keeps.settleRefresh holds found nofun
    · cases stepped
  · split at stepped
    · rename_i point
      obtain rfl := Option.some.inj stepped
      exact keeps.afterRefreshRead holds found point _
    · cases stepped
  · split at stepped
    · obtain rfl := Option.some.inj stepped
      exact keeps.settleRefresh holds found nofun
    · obtain rfl := Option.some.inj stepped
      exact keeps.settleRefresh holds found nofun
    · cases stepped
  · cases stepped

/-- What the service that awaited a request does. -/
theorem resume (keeps : Keeps property begins logsIn grants) (holds : property state)
    (found : state.requests[id]? = some request) (point : request.point = .settled outcome)
    (may : state.completesLogin request = true →
      logsIn { state.moveTo id .resumed with logoutToken := none }) :
    property ((state.moveTo id .resumed).resume request outcome) := by
  have moved : property (state.moveTo id .resumed) := by
    refine keeps.moveTo holds found ⟨?_, nofun, nofun, nofun⟩
    rw [point]
    exact ⟨nofun, nofun⟩
  have resumed : (state.moveTo id .resumed).requests[id]? =
      some { request with point := .resumed } := by
    dsimp only [State.moveTo]
    rw [List.getElem?_modify, found]
    exact congrArg some (if_pos rfl)
  have member := List.mem_of_getElem? resumed
  have completes : request.purpose.isLogin = true → request.epoch = state.sessionEpoch →
      ∀ token, outcome = .data (.value (some token)) →
        logsIn { state.moveTo id .resumed with logoutToken := none } := by
    rintro isLogin current token rfl
    refine may ?_
    unfold State.completesLogin
    rw [isLogin, point, decide_eq_true current]
    rfl
  unfold State.resume
  split
  · exact moved
  · rename_i purpose
    have isLogin : request.purpose.isLogin = true := by rw [purpose]; rfl
    exact keeps.afterLogin moved member isLogin rfl rfl (fun _ => rfl) (completes isLogin)
  · rename_i purpose
    have isLogin : request.purpose.isLogin = true := by rw [purpose]; rfl
    exact keeps.afterLogin moved member isLogin rfl rfl (fun _ => rfl) (completes isLogin)
  · rename_i purpose
    refine keeps.afterAuthRefresh moved fun current token same => ?_
    have mayGrant : request.point.mayGrant = true := by rw [point, same]; rfl
    have granted : grants state.log state.sessionEpoch request.began :=
      keeps.authGrants holds (List.mem_of_getElem? found) purpose mayGrant current
    exact granted
  · split
    · exact moved
    · exact keeps.logout none moved

/-- What the step of a request does. -/
theorem stepRequest (keeps : Keeps property begins logsIn grants) (holds : property state)
    (found : state.requests[id]? = some request) {next : State}
    (responds : ∀ id status, action = .respond id status →
      state.beginsRefresh request status = true → begins state)
    (resumes : ∀ id, action = .resume id → state.completesLogin request = true →
      logsIn { state.moveTo id .resumed with logoutToken := none })
    (own : ∀ other, action = .resume other → other = id)
    (stepped : state.stepRequest id request action = some next) : property next := by
  have running : ∀ {point : RequestPoint}, request.point = point →
      { request with point }.isActive = true → point.mayGrant = true → request.Running := by
    rintro _ rfl isActive mayGrant
    exact ⟨isActive, mayGrant⟩
  unfold State.stepRequest at stepped
  split at stepped
  · split at stepped
    · rename_i isActive
      obtain rfl := Option.some.inj stepped
      exact keeps.abort _ holds found isActive.1
    · cases stepped
  · rename_i status
    split at stepped
    · rename_i point
      obtain rfl := Option.some.inj stepped
      refine keeps.afterFetch holds found (running point rfl rfl) ?_
      intro refused unsuppressed current promise
      refine responds _ status rfl ?_
      unfold State.beginsRefresh
      rw [point, refused, unsuppressed, current, promise]
      rfl
    · rename_i point
      obtain rfl := Option.some.inj stepped
      exact keeps.afterRetry holds found (running point rfl rfl) _
    · cases stepped
  · split at stepped
    · rename_i point
      obtain rfl := Option.some.inj stepped
      exact keeps.moveOn holds found (running point rfl rfl) nofun
    · rename_i point
      obtain rfl := Option.some.inj stepped
      exact keeps.moveOn holds found (running point rfl rfl) nofun
    · rename_i point
      obtain rfl := Option.some.inj stepped
      exact keeps.moveOn holds found (running point rfl rfl) nofun
    · cases stepped
  · split at stepped
    · rename_i point
      have isRunning := running point rfl rfl
      split at stepped
      · split at stepped
        · obtain rfl := Option.some.inj stepped
          exact keeps.afterRefresh holds found isRunning nofun
        · cases stepped
      · obtain ⟨token, result, rfl⟩ := Option.map_eq_some_iff.mp stepped
        exact keeps.afterRefresh holds found isRunning
          ((keeps.consistent holds).refreshResult (List.mem_of_getElem? found) point result)
    · cases stepped
  · split at stepped
    · rename_i point
      obtain rfl := Option.some.inj stepped
      exact keeps.moveOn holds found (running point rfl rfl) nofun
    · rename_i point
      obtain rfl := Option.some.inj stepped
      exact keeps.receive holds found (running point rfl rfl) _
    · cases stepped
  · split at stepped
    · rename_i point
      obtain rfl := Option.some.inj stepped
      refine keeps.moveTo holds found ⟨?_, nofun, nofun, nofun⟩
      rw [point]
      exact ⟨nofun, nofun⟩
    · cases stepped
  · split at stepped
    · rename_i point
      obtain rfl := Option.some.inj stepped
      exact keeps.afterRead holds found (running point rfl rfl) _
    · cases stepped
  · rename_i other
    obtain rfl := own other rfl
    split at stepped
    · rename_i point
      obtain rfl := Option.some.inj stepped
      exact keeps.resume holds found point (resumes other rfl)
    · cases stepped
  · split at stepped
    · rename_i done
      obtain rfl := Option.some.inj stepped
      exact keeps.release holds found done.1 done.2
    · cases stepped
  · cases stepped

/-- The new epoch of a session that is invalidated has no requests yet. -/
theorem epoch_ne_of_invalidateSession (consistent : Consistent state) :
    ∀ request ∈ state.invalidateSession.requests,
      request.epoch ≠ state.invalidateSession.sessionEpoch := by
  intro request member
  obtain ⟨before, old, rfl⟩ := List.mem_map.mp member
  have same : (before.abort .sessionInvalidated).epoch = before.epoch := by
    unfold Request.abort
    split <;> rfl
  rw [same]
  exact Nat.ne_of_lt (Nat.lt_succ_of_le (consistent.requests.epoch_le before old))

/-- What a step does. -/
theorem perform (keeps : Keeps property begins logsIn grants) (holds : property state)
    {next : State} (permits : Permits begins logsIn state action)
    (performed : state.perform action = some next) : property next := by
  have invalid := keeps.invalidateSession holds
  have later := epoch_ne_of_invalidateSession (keeps.consistent holds)
  have ofRequest : ∀ {id : Nat},
      (state.requests[id]?.bind (state.stepRequest id · action)) = some next →
        (∀ other, action = .resume other → other = id) →
        (∀ other status, action = .respond other status → other = id) → property next := by
    intro id stepped own same
    obtain ⟨request, found, stepped⟩ := Option.bind_eq_some_iff.mp stepped
    refine keeps.stepRequest holds found ?_ ?_ own stepped
    · intro other status isRespond begun
      obtain rfl := same other status isRespond
      exact permits.respond other status request isRespond found begun
    · intro other isResume completes
      obtain rfl := own other isResume
      exact permits.resume other request isResume found completes
  have ofRefresh : ∀ {id : Nat},
      (state.refreshes[id]?.bind (state.stepRefresh id · action)) = some next →
        property next := by
    intro id stepped
    obtain ⟨refresh, found, stepped⟩ := Option.bind_eq_some_iff.mp stepped
    exact keeps.stepRefresh holds found stepped
  cases action with
  | request suppress =>
    obtain rfl := Option.some.inj performed
    exact keeps.openRequest suppress _ holds nofun nofun
  | login =>
    obtain rfl := Option.some.inj performed
    exact keeps.openRequest true _ invalid nofun fun _ => later
  | register =>
    obtain rfl := Option.some.inj performed
    exact keeps.openRequest true _ invalid nofun fun _ => later
  | authRefresh =>
    dsimp only [State.perform] at performed
    split at performed
    · obtain rfl := Option.some.inj performed
      exact holds
    · rename_i free
      obtain rfl := Option.some.inj performed
      have free := Option.not_isSome_iff_eq_none.mp free
      exact keeps.openAuthRefresh _ holds free (permits.authRefresh rfl free)
  | logout =>
    obtain rfl := Option.some.inj performed
    exact keeps.openRequest true _ (keeps.invalidateSession (keeps.logout _ holds)) nofun nofun
  | prepareLogout =>
    obtain rfl := Option.some.inj performed
    exact keeps.invalidateSession (keeps.logout _ holds)
  | discardLogoutToken =>
    obtain rfl := Option.some.inj performed
    exact keeps.invalidateSession (keeps.logout none holds)
  | invalidateSession =>
    obtain rfl := Option.some.inj performed
    exact invalid
  | bindMaintenanceToken token =>
    obtain rfl := Option.some.inj performed
    exact keeps.maintenance token holds
  | abort id reason => exact ofRequest performed nofun nofun
  | respond id status =>
    exact ofRequest performed nofun fun _ _ same => (Action.respond.inj same).1.symm
  | reject id => exact ofRequest performed nofun nofun
  | refreshed id stopped => exact ofRequest performed nofun nofun
  | proceed id => exact ofRequest performed nofun nofun
  | readError id => exact ofRequest performed nofun nofun
  | read id payload => exact ofRequest performed nofun nofun
  | resume id => exact ofRequest performed (fun _ same => (Action.resume.inj same).symm) nofun
  | release id => exact ofRequest performed nofun nofun
  | abortRefresh id => exact ofRefresh performed
  | respondRefresh id status => exact ofRefresh performed
  | readRefresh id payload => exact ofRefresh performed
  | rejectRefresh id => exact ofRefresh performed

end Keeps

theorem step_ok {state next : State} (stepped : state.step action = .ok next) :
    state.tick.perform action = some next := by
  unfold State.step at stepped
  split at stepped
  · rename_i performed
    rw [performed, Except.ok.inj stepped]
  · cases stepped

/-- The invariant holds in every run. -/
theorem consistent_of_reachable {meets : State → Action → Prop} {state : State}
    (reached : machine.ReachableWhen meets state) : Consistent state := by
  refine reached.invariant Consistent ?_ ?_
  · rintro first rfl
    exact Consistent.start
  · intro before action after consistent _ stepped
    exact keeps_consistent.perform consistent.tick
      ⟨fun _ _ => trivial, fun _ _ _ _ _ _ => trivial, fun _ _ _ _ _ => trivial⟩
      (step_ok stepped)

end ClientSessions

end CareerOS
