/-
This file is the API client of the browser: its requests, the two ways a session is
refreshed, and the login, the registration and the logout. One thread runs them all,
so a step goes from one place where a function waits to the next, and while it waits
anything else may happen. A session has a number, its epoch, which every invalidation
raises; most of what a function does after it has waited asks for the epoch first.

What the client does is logged with the epoch in which it does it, so that what may
not happen can be said of the log.
-/

import CareerOS.Library.Machine

namespace CareerOS

namespace ClientSessions

/-! ### Requests and refreshes -/

/-- What a request is made for. -/
inductive Purpose
  /-- By a caller of `ApiClient.request`. -/
  | api
  | login
  | register
  /-- By `AuthService.refresh`. -/
  | refresh
  | logout
  deriving DecidableEq

/-- The reasons of an abort. -/
inductive AbortReason
  | sessionInvalidated
  | callerAborted
  | requestTimeout
  deriving DecidableEq

/-- The body of a response: `null`, or a value that may have an access token. -/
inductive Payload
  | null
  | value (accessToken : Option String)
  deriving DecidableEq

/-- How the promise of a request is settled. -/
inductive Outcome
  | data (payload : Payload)
  /-- `null`, for a response without content. -/
  | noContent
  | failed
  deriving DecidableEq

/-- Where a request waits. -/
inductive RequestPoint
  | fetching
  /-- For a refresh of the client. -/
  | waiting (refresh : Nat)
  | retrying (token : String)
  /-- `_handleUnauthorized` has returned, a response with this status or none. -/
  | answered (status : Option Nat)
  | readingError
  | reading
  | settled (outcome : Outcome)
  /-- The service that awaited the request has gone on. -/
  | resumed
  /-- `AuthService.refresh` has given up its promise. -/
  | released
  deriving DecidableEq

/-- A call of `ApiClient.request`. -/
structure Request where
  purpose : Purpose
  /-- The epoch it began in. -/
  epoch : Nat
  /-- When it began. -/
  began : Nat
  suppressUnauthorizedRefresh : Bool
  /-- The token in its headers. -/
  token : Option String
  aborted : Option AbortReason
  point : RequestPoint
  deriving DecidableEq

/-- Where the refresh of the client waits. -/
inductive RefreshPoint
  | fetching
  | reading
  | settled (token : Option String)
  deriving DecidableEq

/-- A refresh that `_handleUnauthorized` began. -/
structure Refresh where
  epoch : Nat
  began : Nat
  token : Option String
  aborted : Bool
  point : RefreshPoint
  deriving DecidableEq

/-- Is the controller of the request among the active ones? -/
def Request.isActive (request : Request) : Bool :=
  match request.point with
  | .settled _ | .resumed | .released => false
  | _ => true

/-- Is the refresh not settled yet? -/
def Refresh.isPending (refresh : Refresh) : Bool :=
  match refresh.point with
  | .settled _ => false
  | _ => true

/-- `controller.abort(reason)`, which keeps the first reason. -/
def Request.abort (reason : AbortReason) (request : Request) : Request :=
  if request.isActive then { request with aborted := request.aborted.or (some reason) }
  else request

/-! ### The client -/

/-- Who sets the access token. -/
inductive Setter
  | login
  | register
  /-- A refresh, by when it began. -/
  | refresh (began : Nat)
  | maintenance
  deriving DecidableEq

/-- What the client does that is seen. -/
inductive Effect
  /-- A request that began in an epoch resolves with data. -/
  | resolved (epoch : Nat) (payload : Payload)
  /-- The unauthorized event is raised by a request that began in an epoch. -/
  | unauthorized (epoch : Nat)
  /-- A request that began in an epoch is sent again with a token. -/
  | retried (epoch : Nat) (token : String)
  | tokenSet (setter : Setter) (token : Option String)
  deriving DecidableEq

/-- What is done, when, and in which epoch. -/
structure Entry where
  clock : Nat
  epoch : Nat
  effect : Effect
  deriving DecidableEq

/-- `ApiClient` and `AuthService`, with the requests and refreshes there were, the time, and what
was done. -/
structure State where
  accessToken : Option String
  sessionEpoch : Nat
  refreshPromise : Option Nat
  authRefreshPromise : Option Nat
  logoutToken : Option String
  requests : List Request
  refreshes : List Refresh
  clock : Nat
  log : List Entry
  deriving DecidableEq

/-- The client before anything happened. -/
def State.start : State where
  accessToken := none
  sessionEpoch := 0
  refreshPromise := none
  authRefreshPromise := none
  logoutToken := none
  requests := []
  refreshes := []
  clock := 0
  log := []

namespace State

variable (state : State)

/-- Logs an effect. -/
def note (effect : Effect) : State :=
  { state with log := ⟨state.clock, state.sessionEpoch, effect⟩ :: state.log }

/-- Moves a request on. -/
def moveTo (id : Nat) (point : RequestPoint) : State :=
  { state with requests := state.requests.modify id fun request => { request with point } }

/-- Moves a refresh on. -/
def moveRefreshTo (id : Nat) (point : RefreshPoint) : State :=
  { state with refreshes := state.refreshes.modify id fun refresh => { refresh with point } }

/-- Aborts a refresh. -/
def abortRefresh (id : Nat) : State :=
  { state with refreshes := state.refreshes.modify id fun refresh => { refresh with aborted := true } }

/-- `invalidateSession`. -/
def invalidateSession : State :=
  let aborted := match state.refreshPromise with
    | some id => state.abortRefresh id
    | none => state
  { aborted with
    sessionEpoch := state.sessionEpoch + 1
    accessToken := none
    refreshPromise := none
    requests := state.requests.map (Request.abort .sessionInvalidated) }

/-- `setToken` of a token, or the assignment of one. -/
def setToken (setter : Setter) (token : String) : State :=
  { state with accessToken := some token }.note (.tokenSet setter (some token))

/-- `bindMaintenanceToken`. -/
def bindMaintenanceToken (token : Option String) : State :=
  { state.invalidateSession with accessToken := token }.note (.tokenSet .maintenance token)

/-- `ApiClient.request` up to its `fetch`. -/
def openRequest (purpose : Purpose) (suppress : Bool) (token : Option String) : State :=
  { state with
    requests := state.requests ++
      [⟨purpose, state.sessionEpoch, state.clock, suppress, token, none, .fetching⟩] }

/-- The refresh that `_handleUnauthorized` begins, up to its `fetch`. -/
def openRefresh : State :=
  { state with
    refreshes := state.refreshes ++
      [⟨state.sessionEpoch, state.clock, state.accessToken, false, .fetching⟩]
    refreshPromise := some state.refreshes.length }

/-- Has the request begun in this epoch, and is it not aborted? -/
def isCurrent (request : Request) : Bool :=
  request.epoch = state.sessionEpoch && request.aborted.isNone

/-- `_handleUnauthorized` up to its first wait. -/
def handleUnauthorized (id : Nat) (request : Request) : State :=
  if state.isCurrent request then
    match state.refreshPromise with
    | some refresh => state.moveTo id (.waiting refresh)
    | none => state.openRefresh.moveTo id (.waiting state.refreshes.length)
  else state.moveTo id (.answered none)

/-- `_handleUnauthorized` after the refresh. -/
def afterRefresh (id : Nat) (request : Request) (refreshedToken : Option String) : State :=
  match refreshedToken with
  | some token =>
    if state.isCurrent request then
      (state.note (.retried request.epoch token)).moveTo id (.retrying token)
    else state.moveTo id (.answered none)
  | none =>
    if state.isCurrent request then
      (state.note (.unauthorized request.epoch)).moveTo id (.answered none)
    else state.moveTo id (.answered none)

/-- `_handleUnauthorized` after the second response. -/
def afterRetry (id : Nat) (request : Request) (status : Nat) : State :=
  if status = 401 ∧ state.isCurrent request = true then
    (state.note (.unauthorized request.epoch)).moveTo id (.answered none)
  else state.moveTo id (.answered (some status))

/-- `response.ok`. -/
def isOk (status : Nat) : Bool := 200 ≤ status && status ≤ 299

/-- `request` from a response on to its next wait. -/
def receive (id : Nat) (request : Request) (status : Nat) : State :=
  if !isOk status then state.moveTo id .readingError
  else if status = 204 then
    if request.epoch = state.sessionEpoch then state.moveTo id (.settled .noContent)
    else state.moveTo id (.settled .failed)
  else state.moveTo id .reading

/-- `request` after its first response. -/
def afterFetch (id : Nat) (request : Request) (status : Nat) : State :=
  if status = 401 ∧ request.suppressUnauthorizedRefresh = false then
    state.handleUnauthorized id request
  else state.receive id request status

/-- `request` after it has read its response. -/
def afterRead (id : Nat) (request : Request) (payload : Payload) : State :=
  if request.epoch = state.sessionEpoch then
    (state.note (.resolved request.epoch payload)).moveTo id (.settled (.data payload))
  else state.moveTo id (.settled .failed)

/-! ### The services -/

/-- `login` or `register` after the request. -/
def afterLogin (setter : Setter) (request : Request) (outcome : Outcome) : State :=
  if request.epoch ≠ state.sessionEpoch then state
  else
    match outcome with
    | .data (.value (some token)) =>
      ({ state with logoutToken := none }.setToken setter token).note
        (.resolved request.epoch (.value (some token)))
    | .data (.value none) => state.note (.resolved request.epoch (.value none))
    | .data .null | .noContent | .failed => state

/-- `AuthService.refresh` after the request. -/
def afterAuthRefresh (request : Request) (outcome : Outcome) : State :=
  match outcome with
  | .data (.value token) =>
    match token with
    | some token =>
      if request.epoch = state.sessionEpoch then
        ({ state with logoutToken := none }.setToken (.refresh request.began) token).note
          (.resolved request.epoch (.value (some token)))
      else state
    | none => state
  -- The access token of `null` throws.
  | .data .null | .noContent | .failed =>
    if request.epoch = state.sessionEpoch then state.invalidateSession else state

/-- The service that awaited a request goes on. -/
def resume (request : Request) (outcome : Outcome) : State :=
  match request.purpose with
  | .api => state
  | .login => state.afterLogin .login request outcome
  | .register => state.afterLogin .register request outcome
  | .refresh => state.afterAuthRefresh request outcome
  | .logout => if outcome = .failed then state else { state with logoutToken := none }

/-- The refresh of the client is settled, and gives up its promise. -/
def settleRefresh (id : Nat) (token : Option String) : State :=
  let settled := state.moveRefreshTo id (.settled token)
  if state.refreshPromise = some id then { settled with refreshPromise := none } else settled

/-- The refresh of the client after it has read its response. -/
def afterRefreshRead (id : Nat) (refresh : Refresh) (payload : Payload) : State :=
  match payload with
  | .value (some token) =>
    if refresh.epoch = state.sessionEpoch ∧ refresh.aborted = false then
      (state.setToken (.refresh refresh.began) token).settleRefresh id (some token)
    else state.settleRefresh id none
  | .value none | .null => state.settleRefresh id none

/-- `logout` up to its request. -/
def logout : State :=
  let logoutToken := state.logoutToken.or state.accessToken
  let invalid := { state with logoutToken }.invalidateSession
  invalid.openRequest .logout true (logoutToken.or invalid.accessToken)

end State

/-! ### Steps -/

/-- What happens next. -/
inductive Action
  /-- A caller makes a request. -/
  | request (suppressUnauthorizedRefresh : Bool)
  | login
  | register
  | authRefresh
  | logout
  | prepareLogout
  | discardLogoutToken
  | invalidateSession
  | bindMaintenanceToken (token : Option String)
  /-- A request is aborted by its caller or its timeout. -/
  | abort (id : Nat) (reason : AbortReason)
  /-- The timeout of a refresh of the client. -/
  | abortRefresh (id : Nat)
  /-- The fetch of a request is answered. -/
  | respond (id : Nat) (status : Nat)
  /-- What a request waits for is rejected. -/
  | reject (id : Nat)
  /-- The wait for a refresh ends, by the refresh or because the request is aborted. -/
  | refreshed (id : Nat) (stopped : Bool)
  /-- A request goes on with what `_handleUnauthorized` has returned. -/
  | proceed (id : Nat)
  /-- The error of a response is read. -/
  | readError (id : Nat)
  /-- The body of a response is read. -/
  | read (id : Nat) (payload : Payload)
  /-- The service that awaited a request goes on. -/
  | resume (id : Nat)
  | release (id : Nat)
  | respondRefresh (id : Nat) (status : Nat)
  | readRefresh (id : Nat) (payload : Payload)
  | rejectRefresh (id : Nat)
  deriving DecidableEq

/-- The token of a refresh that is settled. -/
def State.refreshResult (state : State) (id : Nat) : Option (Option String) :=
  match state.refreshes[id]? with
  | some refresh =>
    match refresh.point with
    | .settled token => some token
    | _ => none
  | none => none

/-- What a step of a request does; nothing where the request does not wait for it. -/
def State.stepRequest (state : State) (id : Nat) (request : Request) : Action → Option State
  | .abort _ reason =>
    if request.isActive = true ∧ reason ≠ .sessionInvalidated then
      some { state with requests := state.requests.modify id (Request.abort reason) }
    else none
  | .respond _ status =>
    match request.point with
    | .fetching => some (state.afterFetch id request status)
    | .retrying _ => some (state.afterRetry id request status)
    | _ => none
  | .reject _ =>
    match request.point with
    | .fetching | .retrying _ | .reading => some (state.moveTo id (.settled .failed))
    | _ => none
  | .refreshed _ stopped =>
    match request.point with
    | .waiting refresh =>
      if stopped then
        if request.aborted.isSome then some (state.afterRefresh id request none) else none
      else (state.refreshResult refresh).map (state.afterRefresh id request)
    | _ => none
  | .proceed _ =>
    match request.point with
    | .answered none => some (state.moveTo id (.settled .failed))
    | .answered (some status) => some (state.receive id request status)
    | _ => none
  | .readError _ =>
    match request.point with
    | .readingError => some (state.moveTo id (.settled .failed))
    | _ => none
  | .read _ payload =>
    match request.point with
    | .reading => some (state.afterRead id request payload)
    | _ => none
  | .resume _ =>
    match request.point with
    | .settled outcome => some ((state.moveTo id .resumed).resume request outcome)
    | _ => none
  | .release _ =>
    if request.point = .resumed ∧ request.purpose = .refresh then
      some { state.moveTo id .released with
        authRefreshPromise :=
          if state.authRefreshPromise = some id then none else state.authRefreshPromise }
    else none
  | _ => none

/-- What a step of a refresh of the client does. -/
def State.stepRefresh (state : State) (id : Nat) (refresh : Refresh) : Action → Option State
  | .abortRefresh _ => if refresh.isPending then some (state.abortRefresh id) else none
  | .respondRefresh _ status =>
    match refresh.point with
    | .fetching =>
      if State.isOk status then some (state.moveRefreshTo id .reading)
      else some (state.settleRefresh id none)
    | _ => none
  | .readRefresh _ payload =>
    match refresh.point with
    | .reading => some (state.afterRefreshRead id refresh payload)
    | _ => none
  | .rejectRefresh _ =>
    match refresh.point with
    | .fetching | .reading => some (state.settleRefresh id none)
    | .settled _ => none
  | _ => none

/-- What a step does. -/
def State.perform (state : State) : Action → Option State
  | .request suppress => some (state.openRequest .api suppress state.accessToken)
  | .login =>
    let invalid := state.invalidateSession
    some (invalid.openRequest .login true invalid.accessToken)
  | .register =>
    let invalid := state.invalidateSession
    some (invalid.openRequest .register true invalid.accessToken)
  | .authRefresh =>
    if state.authRefreshPromise.isSome then some state
    else some { state.openRequest .refresh true state.accessToken with
      authRefreshPromise := some state.requests.length }
  | .logout => some state.logout
  | .prepareLogout =>
    some { state with logoutToken := state.logoutToken.or state.accessToken }.invalidateSession
  | .discardLogoutToken => some { state with logoutToken := none }.invalidateSession
  | .invalidateSession => some state.invalidateSession
  | .bindMaintenanceToken token => some (state.bindMaintenanceToken token)
  | .abortRefresh id => state.refreshes[id]?.bind (state.stepRefresh id · (.abortRefresh id))
  | .respondRefresh id status =>
    state.refreshes[id]?.bind (state.stepRefresh id · (.respondRefresh id status))
  | .readRefresh id payload =>
    state.refreshes[id]?.bind (state.stepRefresh id · (.readRefresh id payload))
  | .rejectRefresh id => state.refreshes[id]?.bind (state.stepRefresh id · (.rejectRefresh id))
  | .abort id reason => state.requests[id]?.bind (state.stepRequest id · (.abort id reason))
  | .respond id status => state.requests[id]?.bind (state.stepRequest id · (.respond id status))
  | .reject id => state.requests[id]?.bind (state.stepRequest id · (.reject id))
  | .refreshed id stopped =>
    state.requests[id]?.bind (state.stepRequest id · (.refreshed id stopped))
  | .proceed id => state.requests[id]?.bind (state.stepRequest id · (.proceed id))
  | .readError id => state.requests[id]?.bind (state.stepRequest id · (.readError id))
  | .read id payload => state.requests[id]?.bind (state.stepRequest id · (.read id payload))
  | .resume id => state.requests[id]?.bind (state.stepRequest id · (.resume id))
  | .release id => state.requests[id]?.bind (state.stepRequest id · (.release id))

/-- Time passes. -/
def State.tick (state : State) : State := { state with clock := state.clock + 1 }

/-- A step, which takes time. -/
def State.step (state : State) (action : Action) : Except Unit State :=
  match state.tick.perform action with
  | some next => .ok next
  | none => .error ()

/-- The runs of the client. -/
def machine : Machine State Action Unit where
  initial := fun state => state = State.start
  step := State.step

end ClientSessions

end CareerOS
