/-
This file is how a declarative provider sends a request: the definition an owner may store,
the template of its path, parameters and body filled in with the values of a search, and the
attempts, each pinned to an address that was resolved and judged just before.

The tables of the standard library, the addresses of `ipaddress` and the HTTP library are
parameters. Of the HTTP library this uses that a URL has the authority in front of its first
slash, that a path without dot segments keeps its segments, and that dot segments are removed
from any other.
-/

import CareerOS.Library.Templates
import CareerOS.Library.UrlAuthority
import CareerOS.Services.SearchRequests

namespace CareerOS

open Url SearchProfiles

/-- What the transport needs of the standard library. -/
class TransportTables extends TextTables where
  /-- `str.casefold()`. -/
  casefold : String → String
  /-- `ipaddress.ip_address(text)`: is the address global, and is it multicast? -/
  ipAddress : String → Option (Bool × Bool)
  /-- Lower case makes no delimiter. -/
  lower_marks : ∀ text mark, mark ∈ ['/', '?', '#', '@'] → mark ∈ (lower text).toList →
    mark ∈ text.toList

/-- A URL of the HTTP library. -/
structure HttpUrl where
  netloc : String
  host : String
  path : List Char
  deriving DecidableEq

/-- The part of the HTTP library that reads URLs. -/
class HttpLibrary where
  /-- `httpx.URL(text)`, or nothing on an `InvalidURL`. -/
  url : String → Option HttpUrl
  /-- The network location of an authority, in ASCII. -/
  netloc : String → String
  /-- The host of an authority. -/
  host : String → String
  /-- The percent-encoding of a path, on one of its segments. -/
  encodeSegment : List Char → List Char
  /-- The authority ends at the first slash. -/
  url_origin : ∀ authority path parsed, (∀ mark ∈ ['/', '?', '#', '@'], mark ∉ authority.toList) →
    path.head? = some '/' → url (("https://" ++ authority) ++ String.ofList path) = some parsed →
    parsed.netloc = netloc authority ∧ parsed.host = host authority
  /-- A path without dot segments keeps its segments. -/
  url_path : ∀ authority path parsed, (∀ mark ∈ ['/', '?', '#', '@'], mark ∉ authority.toList) →
    path.head? = some '/' → '?' ∉ path → '#' ∉ path →
    (∀ segment ∈ path.splitOn '/', segment ≠ ['.'] ∧ segment ≠ ['.', '.']) →
    url (("https://" ++ authority) ++ String.ofList path) = some parsed →
    parsed.path.splitOn '/' = (path.splitOn '/').map encodeSegment
  /-- Dot segments are removed. -/
  url_dots : ∀ text parsed, url text = some parsed →
    ∀ segment ∈ parsed.path.splitOn '/', segment ≠ ['.'] ∧ segment ≠ ['.', '.']
  encodeSegment_unreserved : ∀ segment, (∀ letter ∈ segment, isUnreserved letter = true) →
    encodeSegment segment = segment

/-! ### The stored definition -/

/-- `ProviderMethod`. -/
inductive ProviderMethod
  | get
  | post
  deriving DecidableEq

/-- `ProviderRequestConfig`, as far as a request is made of it. -/
structure ProviderRequestConfig where
  baseUrl : String
  pathTemplate : String
  method : ProviderMethod
  queryParams : Dict String String
  jsonBody : Option (Dict String Json)
  retries : Nat
  deriving DecidableEq

/-- `ALLOWED_TEMPLATE_VARIABLES`. -/
def allowedTemplateVariables : List String :=
  ["query", "location", "language", "page", "page_one_based", "page_size", "offset",
    "workload_min", "workload_max"]

/-- `_validate_template`. -/
def validateTemplate (value : String) : Except String Unit :=
  refuseWhen ((∃ name ∈ Template.names value.toList, name ∉ allowedTemplateVariables) ∨
      ['{', '{'] <:+: value.toList ∨ ['}', '}'] <:+: value.toList)
    "Provider templates contain an unsupported variable"

mutual

/-- `_validate_template_tree`, of a value without infinite floats. -/
def validateTemplateTree (depth : Nat) : Json → Except String Unit
  | .str value => do
    refuseWhen (4 < depth) "Provider body nesting is too deep"
    refuseWhen (2000 < value.length) "Provider template values are too long"
    validateTemplate value
  | .arr items => do
    refuseWhen (4 < depth) "Provider body nesting is too deep"
    refuseWhen (40 < items.length) "Provider body lists are too large"
    validateTemplateItems (depth + 1) items
  | .obj fields => do
    refuseWhen (4 < depth) "Provider body nesting is too deep"
    refuseWhen (40 < fields.length ∨
        ∃ field ∈ fields, field.1.length < 1 ∨ 120 < field.1.length)
      "Provider body objects are invalid"
    validateTemplateFields (depth + 1) fields
  | _ => refuseWhen (4 < depth) "Provider body nesting is too deep"

def validateTemplateItems (depth : Nat) : List Json → Except String Unit
  | [] => .ok ()
  | item :: rest => do
    validateTemplateTree depth item
    validateTemplateItems depth rest

def validateTemplateFields (depth : Nat) : Dict String Json → Except String Unit
  | [] => .ok ()
  | (_, item) :: rest => do
    validateTemplateTree depth item
    validateTemplateFields depth rest

end

/-- `_FIELD_PATH_RE`: dotted names of letters, digits, underscores and hyphens. -/
def isFieldPath (key : String) : Bool :=
  (key.toList.splitOn '.').all fun part => part ≠ [] && part.all fun letter =>
    letter.isAlphanum || letter == '_' || letter == '-'

/-- A host in the authority of a URL. -/
def authorityOf (host : String) : String :=
  if ':' ∈ host.toList then "[" ++ host ++ "]" else host

/-- `validate_base_url`. -/
def validateBaseUrl [TextTables] (value : String) : Except String String := do
  refuseWhen (value.length < 12 ∨ 2048 < value.length) "String length is out of bounds"
  let parsed ← urlsplitText (Text.strip value)
  refuseWhen (parsed.scheme ≠ "https" ∨ parsed.hostname.getD "" = "" ∨
      parsed.hasCredentials = true ∨ parsed.query ≠ [] ∨ parsed.fragment ≠ [])
    "Provider base_url must be a credential-free HTTPS origin"
  refuseWhen (parsed.path ≠ [] ∧ parsed.path ≠ ['/'])
    "Put provider paths in path_template, not base_url"
  let port ← parsed.port
  refuseWhen (port ∉ [none, some 443]) "Provider base_url must use the default HTTPS port"
  return "https://" ++ authorityOf (TextTables.lower (parsed.hostname.getD ""))

/-- `validate_path_template`. -/
def validatePathTemplate (value : String) : Except String Unit := do
  refuseWhen (value.length < 1 ∨ 1024 < value.length) "String length is out of bounds"
  refuseWhen (value.toList.head? ≠ some '/' ∨ value.toList.take 2 = ['/', '/'] ∨
      [':', '/', '/'] <:+: value.toList ∨ '#' ∈ value.toList ∨ '?' ∈ value.toList)
    "Provider path_template must be a same-origin absolute path"
  validateTemplate value

/-- `validate_query_params`. -/
def validateQueryParams (value : Dict String String) : Except String Unit := do
  refuseWhen (30 < value.length) "At most 30 provider query parameters are allowed"
  forM value fun item => do
    refuseWhen (isFieldPath item.1 = false ∨ 2000 < item.2.length)
      "Provider query parameters are invalid"
    validateTemplate item.2

/-- `validate_json_body`. -/
def validateJsonBody : Option (Dict String Json) → Except String Unit
  | none => .ok ()
  | some body => validateTemplateTree 0 (.obj body)

/-- `ProviderRequestConfig.model_validate`. -/
def ProviderRequestConfig.read [TextTables] (config : ProviderRequestConfig) :
    Except String ProviderRequestConfig := do
  let baseUrl ← validateBaseUrl config.baseUrl
  validatePathTemplate config.pathTemplate
  validateQueryParams config.queryParams
  validateJsonBody config.jsonBody
  refuseWhen (3 < config.retries) "Input should be less than or equal to 3"
  refuseWhen (config.method = .get ∧ config.jsonBody.isSome = true)
    "GET providers cannot define a JSON body"
  return { config with baseUrl }

/-! ### Filling in the definition -/

/-- `_template_values`, for a page of a search. -/
def templateValues (request : JobSearchRequest) (page : Int) : Dict String String := [
  ("query", request.query),
  ("location", request.location),
  ("language", request.language),
  ("page", toString page),
  ("page_one_based", toString (page + 1)),
  ("page_size", toString request.pageSize),
  ("offset", toString (page * request.pageSize)),
  ("workload_min", toString request.workloadMin),
  ("workload_max", toString request.workloadMax)]

/-- `_render_string`. -/
def renderString (values : Dict String String) (path : Bool) (template : String) :
    Except String String :=
  (Template.render values (if path then quote else id) template.toList).map String.ofList

mutual

/-- `_render_json`. -/
def renderJson (values : Dict String String) : Json → Except String Json
  | .str text => (renderString values false text).map .str
  | .arr items => (renderItems values items).map .arr
  | .obj fields => (renderFields values fields).map .obj
  | value => .ok value

def renderItems (values : Dict String String) : List Json → Except String (List Json)
  | [] => .ok []
  | item :: rest => do
    let rendered ← renderJson values item
    let others ← renderItems values rest
    return rendered :: others

def renderFields (values : Dict String String) : Dict String Json →
    Except String (Dict String Json)
  | [] => .ok []
  | (key, item) :: rest => do
    let rendered ← renderJson values item
    let others ← renderFields values rest
    return (key, rendered) :: others

end

/-- `{key: _render_string(value, variables) for ...}`. -/
def renderParams (values : Dict String String) (params : Dict String String) :
    Except String (Dict String String) :=
  params.mapM fun item => (renderString values false item.2).map fun value => (item.1, value)

/-! ### Public destinations -/

section

variable [TransportTables]

open TransportTables

/-- `_public_address`. -/
def publicAddress (value : String) : Bool :=
  match ipAddress (String.ofList (partition '%' value.toList).1) with
  | none => false
  | some (isGlobal, isMulticast) => isGlobal && !isMulticast

/-- `validate_destination_literal`. -/
def validateDestinationLiteral (baseUrl : String) : Except String String := do
  let parsed ← urlsplitText baseUrl
  let hostname := casefold (String.ofList
    ((parsed.hostname.getD "").toList.rdropWhile fun letter => letter == '.'))
  let port ← parsed.port
  refuseWhen (parsed.scheme ≠ "https" ∨ hostname = "" ∨ parsed.hasCredentials = true ∨
      port ∉ [none, some 443] ∨ hostname = "localhost" ∨
      ".localhost".toList <:+ hostname.toList ∨ ".local".toList <:+ hostname.toList)
    "Provider destination must be a public HTTPS origin"
  refuseWhen ((ipAddress hostname).isSome = true ∧ publicAddress hostname = false)
    "Provider destination must be publicly routable"
  return hostname

/-- `resolve_public_destination`, with the addresses that `getaddrinfo` finds. -/
def resolvePublicDestination (baseUrl : String) (found : Option (List String)) :
    Except String (List String) := do
  let _ ← validateDestinationLiteral baseUrl
  match found with
  | none => .error "Provider destination could not be resolved safely"
  | some rows =>
    let addresses := rows.dedup.insertionSort (· ≤ ·)
    refuseWhen (addresses = [] ∨ 16 < addresses.length ∨
        ∃ item ∈ addresses, publicAddress item = false)
      "Provider destination resolved outside the public network"
    return addresses

/-! ### The attempts -/

variable [HttpLibrary]

/-- A request as it is sent: the address it is sent to, the header and the name that say which
host is meant, and its target. -/
structure SentRequest where
  method : ProviderMethod
  address : String
  hostHeader : String
  serverName : String
  path : List Char
  params : Dict String String
  body : Option Json
  deriving DecidableEq

/-- What comes of an attempt. -/
inductive AttemptOutcome
  | accepted
  | failed (retryable : Bool)

/-- The loop over the attempts, with what the resolver and the server do at each. -/
def attemptsFrom (config : ProviderRequestConfig) (url : String) (params : Dict String String)
    (body : Option Json) (resolver : Nat → Option (List String))
    (outcomes : Nat → AttemptOutcome) : Nat → Nat → List SentRequest × Except String Unit
  | 0, _ => ([], .error "Provider request failed")
  | remaining + 1, attempt =>
    match resolvePublicDestination config.baseUrl (resolver attempt) with
    | .error message => ([], .error message)
    | .ok addresses =>
      match HttpLibrary.url url with
      | none => ([], .error "InvalidURL")
      | some logical =>
        let sent := {
          method := config.method
          address := addresses.getD (attempt % addresses.length) ""
          hostHeader := logical.netloc
          serverName := logical.host
          path := logical.path
          params := params
          body := body }
        match outcomes attempt with
        | .accepted => ([sent], .ok ())
        | .failed retryable =>
          if remaining = 0 ∨ retryable = false then ([sent], .error "Provider request failed")
          else
            let (later, outcome) :=
              attemptsFrom config url params body resolver outcomes remaining (attempt + 1)
            (sent :: later, outcome)

/-- `DeclarativeTransport._request`. -/
def sendRequest (config : ProviderRequestConfig) (request : JobSearchRequest) (page : Int)
    (resolver : Nat → Option (List String)) (outcomes : Nat → AttemptOutcome) :
    List SentRequest × Except String Unit :=
  let values := templateValues request page
  let rendered : Except String (String × Dict String String × Option Json) := do
    let path ← renderString values true config.pathTemplate
    let params ← renderParams values config.queryParams
    let body ← match config.jsonBody with
      | none => pure none
      | some fields => (renderJson values (.obj fields)).map some
    return (path, params, body)
  match rendered with
  | .error message => ([], .error message)
  | .ok (path, params, body) =>
    attemptsFrom config (config.baseUrl ++ path) params body resolver outcomes
      (config.retries + 1) 0

/-! ### What a request may do -/

end

mutual

/-- A value without its texts. -/
def jsonShape : Json → Json
  | .str _ => .str ""
  | .arr items => .arr (itemShapes items)
  | .obj fields => .obj (fieldShapes fields)
  | value => value

def itemShapes : List Json → List Json
  | [] => []
  | item :: rest => jsonShape item :: itemShapes rest

def fieldShapes : Dict String Json → Dict String Json
  | [] => []
  | (key, item) :: rest => (key, jsonShape item) :: fieldShapes rest

end

variable {values : Dict String String}

mutual

/-- Filling in a value keeps its shape. -/
theorem jsonShape_renderJson :
    ∀ {value rendered : Json}, renderJson values value = .ok rendered →
      jsonShape rendered = jsonShape value
  | .str text, rendered, filled => by
    unfold renderJson at filled
    obtain ⟨_, -, rfl⟩ := map_ok_iff.mp filled
    rfl
  | .arr items, rendered, filled => by
    unfold renderJson at filled
    obtain ⟨others, there, rfl⟩ := map_ok_iff.mp filled
    simp only [jsonShape, itemShapes_renderItems there]
  | .obj fields, rendered, filled => by
    unfold renderJson at filled
    obtain ⟨others, there, rfl⟩ := map_ok_iff.mp filled
    simp only [jsonShape, fieldShapes_renderFields there]
  | .null, _, filled | .bool _, _, filled | .int _, _, filled | .float _, _, filled => by
    obtain rfl := Except.ok.inj filled
    rfl

theorem itemShapes_renderItems :
    ∀ {items rendered : List Json}, renderItems values items = .ok rendered →
      itemShapes rendered = itemShapes items
  | [], rendered, filled => by
    obtain rfl := Except.ok.inj filled
    rfl
  | item :: rest, rendered, filled => by
    simp only [renderItems, bind_ok_iff, pure_ok_iff] at filled
    obtain ⟨first, here, others, there, rfl⟩ := filled
    simp only [itemShapes, jsonShape_renderJson here, itemShapes_renderItems there]

theorem fieldShapes_renderFields :
    ∀ {fields rendered : Dict String Json}, renderFields values fields = .ok rendered →
      fieldShapes rendered = fieldShapes fields
  | [], rendered, filled => by
    obtain rfl := Except.ok.inj filled
    rfl
  | (key, item) :: rest, rendered, filled => by
    simp only [renderFields, bind_ok_iff, pure_ok_iff] at filled
    obtain ⟨first, here, others, there, rfl⟩ := filled
    simp only [fieldShapes, jsonShape_renderJson here, fieldShapes_renderFields there]

end

/-! ### An accepted definition can be filled in -/

theorem lookup_templateValues (request : JobSearchRequest) (page : Int) {name : String}
    (allowed : name ∈ allowedTemplateVariables) :
    ∃ value, Dict.lookup name (templateValues request page) = some value := by
  simp only [allowedTemplateVariables, List.mem_cons, List.not_mem_nil, or_false] at allowed
  rcases allowed with rfl | rfl | rfl | rfl | rfl | rfl | rfl | rfl | rfl <;> exact ⟨_, rfl⟩

variable {template : String}

theorem render_ok_of_valid (valid : validateTemplate template = .ok ())
    (request : JobSearchRequest) (page : Int) (encode : List Char → List Char) :
    ∃ text, Template.render (templateValues request page) encode template.toList = .ok text := by
  refine Template.render_ok_of_known fun name member => ?_
  refine lookup_templateValues request page (Decidable.not_not.mp fun unknown => ?_)
  exact refuseWhen_ok_iff.mp valid (.inl ⟨name, member, unknown⟩)

theorem renderString_ok_of_valid (valid : validateTemplate template = .ok ())
    (request : JobSearchRequest) (page : Int) (path : Bool) :
    ∃ text, renderString (templateValues request page) path template = .ok text := by
  obtain ⟨text, rendered⟩ := render_ok_of_valid valid request page (if path then quote else id)
  exact ⟨_, map_ok_iff.mpr ⟨text, rendered, rfl⟩⟩

mutual

/-- An accepted value is filled in. -/
theorem renderJson_ok (request : JobSearchRequest) (page : Int) :
    ∀ {value : Json} {depth : Nat}, validateTemplateTree depth value = .ok () →
      ∃ rendered, renderJson (templateValues request page) value = .ok rendered
  | .str text, depth, valid => by
    simp only [validateTemplateTree, bind_ok_iff] at valid
    obtain ⟨_, -, _, -, valid⟩ := valid
    obtain ⟨filled, rendered⟩ := renderString_ok_of_valid valid request page false
    exact ⟨.str filled, map_ok_iff.mpr ⟨filled, rendered, rfl⟩⟩
  | .arr items, depth, valid => by
    simp only [validateTemplateTree, bind_ok_iff] at valid
    obtain ⟨_, -, _, -, valid⟩ := valid
    obtain ⟨filled, rendered⟩ := renderItems_ok request page valid
    exact ⟨.arr filled, map_ok_iff.mpr ⟨filled, rendered, rfl⟩⟩
  | .obj fields, depth, valid => by
    simp only [validateTemplateTree, bind_ok_iff] at valid
    obtain ⟨_, -, _, -, valid⟩ := valid
    obtain ⟨filled, rendered⟩ := renderFields_ok request page valid
    exact ⟨.obj filled, map_ok_iff.mpr ⟨filled, rendered, rfl⟩⟩
  | .null, _, _ | .bool _, _, _ | .int _, _, _ | .float _, _, _ => ⟨_, rfl⟩

theorem renderItems_ok (request : JobSearchRequest) (page : Int) :
    ∀ {items : List Json} {depth : Nat}, validateTemplateItems depth items = .ok () →
      ∃ rendered, renderItems (templateValues request page) items = .ok rendered
  | [], _, _ => ⟨[], rfl⟩
  | item :: rest, depth, valid => by
    simp only [validateTemplateItems, bind_ok_iff] at valid
    obtain ⟨_, here, there⟩ := valid
    obtain ⟨first, rendered⟩ := renderJson_ok request page here
    obtain ⟨others, filled⟩ := renderItems_ok request page there
    exact ⟨first :: others, by simp only [renderItems, bind_ok_iff, pure_ok_iff]; exact
      ⟨first, rendered, others, filled, rfl⟩⟩

theorem renderFields_ok (request : JobSearchRequest) (page : Int) :
    ∀ {fields : Dict String Json} {depth : Nat}, validateTemplateFields depth fields = .ok () →
      ∃ rendered, renderFields (templateValues request page) fields = .ok rendered
  | [], _, _ => ⟨[], rfl⟩
  | (key, item) :: rest, depth, valid => by
    simp only [validateTemplateFields, bind_ok_iff] at valid
    obtain ⟨_, here, there⟩ := valid
    obtain ⟨first, rendered⟩ := renderJson_ok request page here
    obtain ⟨others, filled⟩ := renderFields_ok request page there
    exact ⟨(key, first) :: others, by simp only [renderFields, bind_ok_iff, pure_ok_iff]; exact
      ⟨first, rendered, others, filled, rfl⟩⟩

end

variable {params : Dict String String}

theorem renderParams_ok (valid : validateQueryParams params = .ok ())
    (request : JobSearchRequest) (page : Int) :
    ∃ rendered, renderParams (templateValues request page) params = .ok rendered := by
  simp only [validateQueryParams, bind_ok_iff] at valid
  obtain ⟨_, -, each⟩ := valid
  refine (mapM_ok_iff params).mpr fun item member => ?_
  have here := (forM_ok_iff params).mp each item member
  simp only [bind_ok_iff] at here
  obtain ⟨_, -, valid⟩ := here
  obtain ⟨text, rendered⟩ := renderString_ok_of_valid valid request page false
  exact ⟨(item.1, text), map_ok_iff.mpr ⟨text, rendered, rfl⟩⟩

/-! ### The authority of an accepted definition -/

/-- An authority without the marks that end it. -/
def PlainAuthority (authority : String) : Prop :=
  ∀ mark ∈ ['/', '?', '#', '@'], mark ∉ authority.toList

section

variable [TransportTables]

theorem mem_of_mem_hostname {parsed : SplitResult} {mark : Char}
    (delimiter : mark ∈ ['/', '?', '#', '@'])
    (member : mark ∈ (parsed.hostname.getD "").toList) : mark ∈ parsed.hostinfo.1 := by
  unfold SplitResult.hostname at member
  split at member
  · cases member
  · rename_i host _ _
    rw [Option.getD_some, String.toList_append, List.mem_append] at member
    rcases member with lowered | zone
    · have inside := TransportTables.lower_marks _ mark delimiter lowered
      rw [String.toList_ofList] at inside
      exact mem_of_mem_partition (.inl inside)
    · rw [String.toList_ofList] at zone
      split at zone
      · rcases List.mem_cons.mp zone with rfl | inside
        · exact absurd delimiter (by decide)
        · exact mem_of_mem_partition (.inr inside)
      · cases zone

omit [TransportTables] in
theorem plainAuthority_authorityOf {host : String}
    (plain : ∀ mark ∈ ['/', '?', '#', '@'], mark ∉ host.toList) :
    PlainAuthority (authorityOf host) := by
  intro mark delimiter member
  unfold authorityOf at member
  split at member
  · rw [String.toList_append, String.toList_append, List.mem_append, List.mem_append] at member
    rcases member with (opened | inside) | closed
    · obtain rfl := List.mem_singleton.mp opened
      exact absurd delimiter (by decide)
    · exact plain mark delimiter inside
    · obtain rfl := List.mem_singleton.mp closed
      exact absurd delimiter (by decide)
  · exact plain mark delimiter member

/-- An accepted base URL is an HTTPS origin. -/
theorem authority_of_validateBaseUrl {value baseUrl : String}
    (valid : validateBaseUrl value = .ok baseUrl) :
    ∃ authority, baseUrl = "https://" ++ authority ∧ PlainAuthority authority := by
  simp only [validateBaseUrl, bind_ok_iff, refuseWhen_ok_iff, pure_ok_iff] at valid
  obtain ⟨_, -, parsed, split, _, origin, _, -, port, -, _, -, rfl⟩ := valid
  push Not at origin
  obtain ⟨scheme, named, anonymous, -, -⟩ := origin
  have located : parsed.netloc ≠ [] := by
    intro empty
    refine named ?_
    have nobody : parsed.hostinfo.1 = [] := by
      refine List.eq_nil_iff_forall_not_mem.mpr fun letter member => ?_
      have inside := mem_of_mem_hostinfo member
      rw [empty] at inside
      cases inside
    unfold SplitResult.hostname
    rw [nobody]
    rfl
  obtain ⟨-, rest, -, -, same⟩ := urlsplit_web split (by rw [scheme]; decide) located
  refine ⟨_, rfl, plainAuthority_authorityOf fun mark delimiter member => ?_⟩
  have inside := mem_of_mem_hostinfo (mem_of_mem_hostname delimiter
    (TransportTables.lower_marks _ mark delimiter member))
  by_cases at_ : mark = '@'
  · refine anonymous ((rpartition_found_iff '@' parsed.netloc).mpr ?_)
    exact at_ ▸ inside
  · rw [same] at inside
    have kept := List.mem_takeWhile_imp inside
    have ending : (['/', '?', '#'] : List Char).contains mark = true := by
      simpa [at_] using delimiter
    rw [inNetloc, ending] at kept
    cases kept

/-! ### The attempts -/

variable [HttpLibrary]

omit [HttpLibrary] in
/-- Every address that is resolved was judged public. -/
theorem publicAddress_of_resolved {baseUrl : String} {found : Option (List String)}
    {addresses : List String} (resolved : resolvePublicDestination baseUrl found = .ok addresses)
    (attempt : Nat) :
    publicAddress (addresses.getD (attempt % addresses.length) "") = true := by
  simp only [resolvePublicDestination, bind_ok_iff] at resolved
  obtain ⟨_, -, resolved⟩ := resolved
  split at resolved
  · cases resolved
  · simp only [bind_ok_iff, refuseWhen_ok_iff, pure_ok_iff] at resolved
    obtain ⟨_, accepted, rfl⟩ := resolved
    push Not at accepted
    obtain ⟨some, -, judged⟩ := accepted
    have bound := Nat.mod_lt attempt (List.length_pos_iff.mpr some)
    rw [List.getD_eq_getElem _ _ bound]
    exact Bool.of_not_eq_false (judged _ (List.getElem_mem bound))

variable {config : ProviderRequestConfig} {resolver : Nat → Option (List String)}

variable {outcomes : Nat → AttemptOutcome} {body : Option Json}

/-- The requests that the attempts send. -/
theorem mem_attemptsFrom {url : String}
    {sent : SentRequest} (remaining : Nat) :
    ∀ attempt, sent ∈ (attemptsFrom config url params body resolver outcomes remaining attempt).1 →
      publicAddress sent.address = true ∧ sent.params = params ∧ sent.body = body ∧
        ∃ logical, HttpLibrary.url url = some logical ∧ sent.hostHeader = logical.netloc ∧
          sent.serverName = logical.host ∧ sent.path = logical.path := by
  induction remaining with
  | zero => exact fun _ member => nomatch member
  | succ remaining inductionHypothesis =>
    intro attempt member
    unfold attemptsFrom at member
    split at member
    · cases member
    · rename_i addresses resolved
      have first := publicAddress_of_resolved resolved attempt
      split at member
      · cases member
      · rename_i logical parsed
        dsimp only at member
        split at member
        · obtain rfl := List.mem_singleton.mp member
          exact ⟨first, rfl, rfl, logical, parsed, rfl, rfl, rfl⟩
        · split at member
          · obtain rfl := List.mem_singleton.mp member
            exact ⟨first, rfl, rfl, logical, parsed, rfl, rfl, rfl⟩
          · rcases List.mem_cons.mp member with rfl | later
            · exact ⟨first, rfl, rfl, logical, parsed, rfl, rfl, rfl⟩
            · exact inductionHypothesis _ later

theorem attemptsFrom_of_unresolved {url : String}
    {sent : SentRequest} {attempt : Nat}
    (unresolved : ∀ addresses,
      resolvePublicDestination config.baseUrl (resolver attempt) ≠ .ok addresses)
    (remaining : Nat) :
    sent ∉ (attemptsFrom config url params body resolver outcomes remaining attempt).1 := by
  cases remaining with
  | zero => exact List.not_mem_nil
  | succ remaining =>
    unfold attemptsFrom
    split
    · exact List.not_mem_nil
    · rename_i addresses resolved
      exact absurd resolved (unresolved addresses)

/-- A resolved address and a URL that is read are enough for the first request. -/
theorem exists_mem_attemptsFrom {url : String}
    {remaining attempt : Nat} {addresses : List String} {logical : HttpUrl}
    (resolved : resolvePublicDestination config.baseUrl (resolver attempt) = .ok addresses)
    (parsed : HttpLibrary.url url = some logical) :
    ∃ sent, sent ∈ (attemptsFrom config url params body resolver outcomes (remaining + 1)
      attempt).1 := by
  unfold attemptsFrom
  rw [resolved]
  dsimp only
  rw [parsed]
  dsimp only
  split
  · exact ⟨_, List.mem_cons_self⟩
  · split
    · exact ⟨_, List.mem_cons_self⟩
    · exact ⟨_, List.mem_cons_self⟩

/-! ### Containment -/

/-- A request that stays inside of its definition. -/
structure Contained (config : ProviderRequestConfig) (values : Dict String String)
    (sent : SentRequest) : Prop where
  address : publicAddress sent.address = true
  origin : ∃ authority, config.baseUrl = "https://" ++ authority ∧
    sent.hostHeader = HttpLibrary.netloc authority ∧ sent.serverName = HttpLibrary.host authority
  segments : List.Forall₂ (fun part segment => ∃ text,
      Template.render values quote part = .ok text ∧ segment = HttpLibrary.encodeSegment text)
    (config.pathTemplate.toList.splitOn '/') (sent.path.splitOn '/')
  params : List.Forall₂ (fun item param =>
      param.1 = item.1 ∧ renderString values false item.2 = .ok param.2)
    config.queryParams sent.params
  body : sent.body.map jsonShape = config.jsonBody.map fun fields => jsonShape (.obj fields)

/-- No segment of the path is a dot segment once it is filled in. -/
def NoDotSegments (config : ProviderRequestConfig) (values : Dict String String) : Prop :=
  ∀ part ∈ config.pathTemplate.toList.splitOn '/', ∀ text,
    Template.render values quote part = .ok text → text ≠ ['.'] ∧ text ≠ ['.', '.']

/-- Two requests that differ in values only. -/
structure SameShape (first second : SentRequest) : Prop where
  hostHeader : first.hostHeader = second.hostHeader
  serverName : first.serverName = second.serverName
  segments : (first.path.splitOn '/').length = (second.path.splitOn '/').length
  params : first.params.map Prod.fst = second.params.map Prod.fst
  body : first.body.map jsonShape = second.body.map jsonShape

theorem Contained.sameShape {values others : Dict String String}
    {first second : SentRequest} (one : Contained config values first)
    (other : Contained config others second) : SameShape first second where
  hostHeader := by
    obtain ⟨authority, base, netloc, -⟩ := one.origin
    obtain ⟨_, same, also, -⟩ := other.origin
    rw [base, String.append_right_inj] at same
    rw [netloc, also, same]
  serverName := by
    obtain ⟨authority, base, -, host⟩ := one.origin
    obtain ⟨_, same, -, also⟩ := other.origin
    rw [base, String.append_right_inj] at same
    rw [host, also, same]
  segments := one.segments.length_eq.symm.trans other.segments.length_eq
  params := by
    have names : ∀ {values : Dict String String} {items params : Dict String String},
        List.Forall₂ (fun item param => param.1 = item.1 ∧
          renderString values false item.2 = .ok param.2) items params →
        params.map Prod.fst = items.map Prod.fst := by
      intro values items params related
      induction related with
      | nil => rfl
      | cons here _ inductionHypothesis =>
        rw [List.map_cons, List.map_cons, here.1, inductionHypothesis]
    rw [names one.params, names other.params]
  body := one.body.trans other.body.symm

omit [TransportTables] [HttpLibrary] in
/-- The path of an accepted template starts with a slash and ends before any query. -/
theorem path_of_render {text : List Char} (valid : validatePathTemplate template = .ok ())
    (rendered : Template.render values quote template.toList = .ok text) :
    text.head? = some '/' ∧ '?' ∉ text ∧ '#' ∉ text := by
  simp only [validatePathTemplate, bind_ok_iff, refuseWhen_ok_iff] at valid
  obtain ⟨_, -, _, shape, -⟩ := valid
  push Not at shape
  obtain ⟨rooted, -, -, noFragment, noQuery⟩ := shape
  refine ⟨?_, Template.not_mem_render (not_mem_quote rfl (by decide)) noQuery rendered,
    Template.not_mem_render (not_mem_quote rfl (by decide)) noFragment rendered⟩
  obtain ⟨rest, whole⟩ := List.head?_eq_some_iff.mp rooted
  rw [whole, ← List.nil_append ('/' :: rest)] at rendered
  obtain ⟨first, second, nothing, -, rfl⟩ :=
    Template.render_append rfl (by decide) (by decide) rendered
  obtain rfl := Except.ok.inj nothing
  rfl

/-- What an accepted definition satisfies. -/
structure AcceptedDefinition (config : ProviderRequestConfig) : Prop where
  authority : ∃ authority, config.baseUrl = "https://" ++ authority ∧ PlainAuthority authority
  path : validatePathTemplate config.pathTemplate = .ok ()
  query : validateQueryParams config.queryParams = .ok ()
  body : validateJsonBody config.jsonBody = .ok ()

omit [HttpLibrary] in
theorem acceptedDefinition_of_read {raw config : ProviderRequestConfig}
    (accepted : raw.read = .ok config) : AcceptedDefinition config := by
  simp only [ProviderRequestConfig.read, bind_ok_iff, pure_ok_iff] at accepted
  obtain ⟨baseUrl, valid, _, path, _, query, _, tree, _, -, _, -, rfl⟩ := accepted
  exact ⟨authority_of_validateBaseUrl valid, path, query, tree⟩

/-- An accepted definition is filled in and sent. -/
theorem sendRequest_eq (accepted : AcceptedDefinition config)
    (request : JobSearchRequest) (page : Int) :
    ∃ text params body,
      Template.render (templateValues request page) quote config.pathTemplate.toList = .ok text ∧
      renderParams (templateValues request page) config.queryParams = .ok params ∧
      body.map jsonShape = config.jsonBody.map (fun fields => jsonShape (.obj fields)) ∧
      ∀ resolver outcomes, sendRequest config request page resolver outcomes =
        attemptsFrom config (config.baseUrl ++ String.ofList text) params body resolver outcomes
          (config.retries + 1) 0 := by
  have template : validateTemplate config.pathTemplate = .ok () := by
    have path := accepted.path
    simp only [validatePathTemplate, bind_ok_iff] at path
    obtain ⟨_, -, _, -, valid⟩ := path
    exact valid
  obtain ⟨text, rendered⟩ := render_ok_of_valid template request page quote
  obtain ⟨params, filled⟩ := renderParams_ok accepted.query request page
  have pathText : renderString (templateValues request page) true config.pathTemplate =
      .ok (String.ofList text) := map_ok_iff.mpr ⟨text, rendered, rfl⟩
  have tree := accepted.body
  cases given : config.jsonBody with
  | none =>
    refine ⟨text, params, none, rendered, filled, rfl, fun resolver outcomes => ?_⟩
    unfold sendRequest
    dsimp only
    rw [pathText, filled, given]
    rfl
  | some fields =>
    rw [given] at tree
    obtain ⟨body, made⟩ := renderJson_ok request page tree
    refine ⟨text, params, some body, rendered, filled, ?_, fun resolver outcomes => ?_⟩
    · exact congrArg some (jsonShape_renderJson made)
    · unfold sendRequest
      dsimp only
      rw [pathText, filled, given]
      dsimp only
      rw [made]
      rfl

omit [TransportTables] [HttpLibrary] in
theorem params_of_renderParams {values items params : Dict String String}
    (filled : renderParams values items = .ok params) :
    List.Forall₂ (fun item param =>
      param.1 = item.1 ∧ renderString values false item.2 = .ok param.2) items params := by
  refine (mapM_ok_iff_forall₂.mp filled).imp fun item param made => ?_
  obtain ⟨value, rendered, rfl⟩ := map_ok_iff.mp made
  exact ⟨rfl, rendered⟩

omit [TransportTables] in
/-- Segments that the HTTP library kept are no dot segments. -/
theorem noDotSegments_of_segments {text : String} {logical : HttpUrl}
    (parsed : HttpLibrary.url text = some logical)
    (segments : List.Forall₂ (fun part segment => ∃ text,
        Template.render values quote part = .ok text ∧
          segment = HttpLibrary.encodeSegment text)
      (config.pathTemplate.toList.splitOn '/') (logical.path.splitOn '/')) :
    NoDotSegments config values := by
  intro part member filled here
  obtain ⟨segment, among, _, same, encoded⟩ := exists_right_of_forall₂ segments member
  obtain rfl := Except.ok.inj (here.symm.trans same)
  obtain ⟨noDot, noDots⟩ := HttpLibrary.url_dots text logical parsed segment among
  have kept : (∀ letter ∈ filled, isUnreserved letter = true) → segment = filled :=
    fun plain => encoded.trans (HttpLibrary.encodeSegment_unreserved filled plain)
  constructor
  · rintro rfl
    exact noDot (kept (List.all_eq_true.mp rfl))
  · rintro rfl
    exact noDots (kept (List.all_eq_true.mp rfl))

/-- Every request stays inside of its definition exactly when nothing is sent or no segment of
the path is a dot segment; and requests of one definition differ in values only. -/
theorem sendRequest_contained_iff {raw config : ProviderRequestConfig}
    (accepted : raw.read = .ok config) (request : JobSearchRequest) (page : Int)
    (resolver : Nat → Option (List String)) (outcomes : Nat → AttemptOutcome) :
    ((∀ sent ∈ (sendRequest config request page resolver outcomes).1,
        Contained config (templateValues request page) sent) ↔
      (∀ addresses, resolvePublicDestination config.baseUrl (resolver 0) ≠ .ok addresses) ∨
      (∀ path, renderString (templateValues request page) true config.pathTemplate = .ok path →
        HttpLibrary.url (config.baseUrl ++ path) = none) ∨
      NoDotSegments config (templateValues request page)) ∧
    ∀ other otherPage first second, Contained config (templateValues request page) first →
      Contained config (templateValues other otherPage) second → SameShape first second := by
  refine ⟨?_, fun _ _ _ _ one another => one.sameShape another⟩
  have definition := acceptedDefinition_of_read accepted
  obtain ⟨text, params, body, rendered, filled, shape, sends⟩ :=
    sendRequest_eq definition request page
  obtain ⟨authority, base, plain⟩ := definition.authority
  obtain ⟨rooted, noQuery, noFragment⟩ := path_of_render definition.path rendered
  have pathText : renderString (templateValues request page) true config.pathTemplate =
      .ok (String.ofList text) := map_ok_iff.mpr ⟨text, rendered, rfl⟩
  have noSlash : ∀ value, '/' ∉ quote value := not_mem_quote rfl (by decide)
  have parts := Template.splitOn_render rfl (by decide) (by decide) noSlash rendered
  rw [sends]
  constructor
  · intro contained
    by_cases resolved : ∃ addresses,
        resolvePublicDestination config.baseUrl (resolver 0) = .ok addresses
    · obtain ⟨addresses, resolved⟩ := resolved
      cases parsed : HttpLibrary.url (config.baseUrl ++ String.ofList text) with
      | none =>
        refine .inr (.inl fun path same => ?_)
        obtain rfl := Except.ok.inj (pathText.symm.trans same)
        exact parsed
      | some logical =>
        obtain ⟨sent, among⟩ : ∃ sent, sent ∈ (attemptsFrom config
            (config.baseUrl ++ String.ofList text) params body resolver outcomes
            (config.retries + 1) 0).1 := exists_mem_attemptsFrom resolved parsed
        obtain ⟨-, -, -, _, again, -, -, path⟩ := mem_attemptsFrom _ _ among
        obtain rfl := Option.some.inj (parsed.symm.trans again)
        exact .inr (.inr (noDotSegments_of_segments parsed
          (path ▸ (contained sent among).segments)))
    · exact .inl fun addresses found => resolved ⟨addresses, found⟩
  · intro cause sent among
    obtain ⟨judged, sameParams, sameBody, logical, parsed, netloc, host, path⟩ :=
      mem_attemptsFrom _ _ among
    have origin := HttpLibrary.url_origin authority text logical plain rooted (base ▸ parsed)
    have noDots : NoDotSegments config (templateValues request page) := by
      rcases cause with unresolved | refused | noDots
      · exact absurd among (attemptsFrom_of_unresolved unresolved _)
      · rw [refused _ pathText] at parsed
        cases parsed
      · exact noDots
    have noDot : ∀ segment ∈ text.splitOn '/', segment ≠ ['.'] ∧ segment ≠ ['.', '.'] := by
      intro segment member
      obtain ⟨part, inside, here⟩ := exists_right_of_forall₂ parts.flip member
      exact noDots part inside segment here
    have kept := HttpLibrary.url_path authority text logical plain rooted noQuery noFragment noDot
      (base ▸ parsed)
    refine ⟨judged, ⟨authority, base, netloc.trans origin.1, host.trans origin.2⟩, ?_, ?_, ?_⟩
    · rw [path, kept, List.forall₂_map_right_iff]
      exact parts.imp fun part filledPart here => ⟨filledPart, here, rfl⟩
    · rw [sameParams]
      exact params_of_renderParams filled
    · rw [sameBody]
      exact shape

end

/-! ### A library that removes dot segments -/

/-- One segment of a path, after the segments that are kept so far, the last one first. -/
def keepSegment (kept : List (List Char)) (segment : List Char) : List (List Char) :=
  if segment = ['.'] then kept
  else if segment = ['.', '.'] then (if kept = [[]] then kept else kept.tail)
  else segment :: kept

/-- A path without its dot segments. -/
def removeDots (path : List Char) : List Char :=
  let joined := ['/'].intercalate ((path.splitOn '/').foldl keepSegment []).reverse
  if joined = [] then ['/'] else joined

theorem mem_keepSegments {segments kept : List (List Char)} {segment : List Char}
    (member : segment ∈ segments.foldl keepSegment kept) :
    segment ∈ kept ∨ segment ∈ segments ∧ segment ≠ ['.'] ∧ segment ≠ ['.', '.'] := by
  induction segments generalizing kept with
  | nil => exact .inl member
  | cons first rest inductionHypothesis =>
    rcases inductionHypothesis member with before | ⟨inside, noDot⟩
    · unfold keepSegment at before
      split_ifs at before with dot dots root
      · exact .inl before
      · exact .inl before
      · exact .inl (List.mem_of_mem_tail before)
      · rcases List.mem_cons.mp before with rfl | before
        · exact .inr ⟨List.mem_cons_self, dot, dots⟩
        · exact .inl before
    · exact .inr ⟨List.mem_cons_of_mem _ inside, noDot⟩

theorem foldl_keepSegment {segments : List (List Char)}
    (plain : ∀ segment ∈ segments, segment ≠ ['.'] ∧ segment ≠ ['.', '.'])
    (kept : List (List Char)) :
    segments.foldl keepSegment kept = segments.reverse ++ kept := by
  induction segments generalizing kept with
  | nil => rfl
  | cons first rest inductionHypothesis =>
    obtain ⟨here, there⟩ := List.forall_mem_cons.mp plain
    rw [List.foldl_cons, keepSegment, if_neg here.1, if_neg here.2, inductionHypothesis there,
      List.reverse_cons, List.append_assoc, List.singleton_append]

theorem removeDots_of_plain {path : List Char} (rooted : path.head? = some '/')
    (plain : ∀ segment ∈ path.splitOn '/', segment ≠ ['.'] ∧ segment ≠ ['.', '.']) :
    removeDots path = path := by
  unfold removeDots
  rw [foldl_keepSegment plain, List.append_nil, List.reverse_reverse, List.intercalate_splitOn]
  refine if_neg fun empty => ?_
  rw [empty] at rooted
  cases rooted

theorem noDots_removeDots (path : List Char) :
    ∀ segment ∈ (removeDots path).splitOn '/', segment ≠ ['.'] ∧ segment ≠ ['.', '.'] := by
  intro segment member
  unfold removeDots at member
  dsimp only at member
  split_ifs at member with empty
  · have root : ['/'].splitOn '/' = [[], []] := rfl
    rw [root] at member
    rcases List.mem_cons.mp member with rfl | member
    · exact ⟨nofun, nofun⟩
    · obtain rfl := List.mem_singleton.mp member
      exact ⟨nofun, nofun⟩
  · rw [List.splitOn_intercalate] at member
    · rcases mem_keepSegments (List.mem_reverse.mp member) with before | ⟨-, noDot⟩
      · cases before
      · exact noDot
    · intro part inside
      rcases mem_keepSegments (List.mem_reverse.mp inside) with before | ⟨among, -⟩
      · cases before
      · exact (mem_splitOn among).1
    · intro nothing
      rw [nothing] at empty
      exact empty rfl

/-- The letters behind `https://`, split at the first slash. -/
theorem span_behind_scheme {authority : String} {path : List Char}
    (plain : '/' ∉ authority.toList) (rooted : path.head? = some '/') :
    let rest := (("https://" ++ authority) ++ String.ofList path).toList.drop 8
    rest.takeWhile (· ≠ '/') = authority.toList ∧ rest.dropWhile (· ≠ '/') = path := by
  have letters : (("https://" ++ authority) ++ String.ofList path).toList.drop 8 =
      authority.toList ++ path := by
    have behind : (String.ofList path).toList = path := String.toList_ofList
    rw [String.toList_append, String.toList_append, List.append_assoc, behind]
    rfl
  obtain ⟨rest, rfl⟩ := List.head?_eq_some_iff.mp rooted
  have before : ∀ letter ∈ authority.toList, decide (letter ≠ '/') = true := by
    intro letter member
    exact decide_eq_true fun same => plain (same ▸ member)
  dsimp only
  rw [letters]
  refine ⟨?_, ?_⟩
  · rw [List.takeWhile_append_of_pos before, List.takeWhile_cons_of_neg (by decide),
      List.append_nil]
  · rw [List.dropWhile_append_of_pos before, List.dropWhile_cons_of_neg (by decide)]

/-- The HTTP library on lower-case ASCII addresses. -/
@[reducible] def HttpLibrary.plain : HttpLibrary where
  url := fun text =>
    let rest := text.toList.drop 8
    let authority := String.ofList (rest.takeWhile (· ≠ '/'))
    some ⟨authority, authority, removeDots (rest.dropWhile (· ≠ '/'))⟩
  netloc := id
  host := id
  encodeSegment := id
  url_origin := fun authority path parsed plain rooted read => by
    obtain ⟨before, -⟩ := span_behind_scheme (plain '/' (by decide)) rooted
    rw [← Option.some.inj read]
    dsimp only at before ⊢
    rw [before, String.ofList_toList]
    exact ⟨rfl, rfl⟩
  url_path := fun authority path parsed plain rooted _ _ noDots read => by
    obtain ⟨-, after⟩ := span_behind_scheme (plain '/' (by decide)) rooted
    rw [← Option.some.inj read]
    dsimp only at after ⊢
    rw [after, removeDots_of_plain rooted noDots, List.map_id]
  url_dots := fun text parsed read => by
    rw [← Option.some.inj read]
    exact noDots_removeDots _
  encodeSegment_unreserved := fun _ _ => rfl

/-- The tables on lower-case ASCII text, where one address is known. -/
@[reducible] def TransportTables.plain : TransportTables where
  toTextTables := .plain
  casefold := id
  ipAddress := fun text => if text = "8.8.8.8" then some (true, false) else none
  lower_marks := fun _ _ _ member => member

/-- A definition with the query in a segment of its path. -/
def querySegment : ProviderRequestConfig where
  baseUrl := "https://jobs.example"
  pathTemplate := "/jobs/{query}"
  method := .get
  queryParams := [("page", "{page}")]
  jsonBody := none
  retries := 0

/-- A search for a query. -/
def searchFor (query : String) : JobSearchRequest where
  query := query
  location := ""
  communalCodes := []
  keywords := []
  professionCodes := []
  workloadMin := 0
  workloadMax := 100
  contractType := .any
  postedWithinDays := none
  radiusSearch := none
  workForms := []
  language := "en"
  pageSize := 20
  sort := .dateDesc

theorem sendRequest_contained_engineer :
    let sent := (@sendRequest .plain .plain querySegment (searchFor "engineer") 0
      (fun _ => some ["8.8.8.8"]) fun _ => .accepted).1
    ((∀ request ∈ sent, @Contained .plain .plain querySegment
        (templateValues (searchFor "engineer") 0) request) ↔
      (∀ addresses, @resolvePublicDestination .plain querySegment.baseUrl (some ["8.8.8.8"]) ≠
        .ok addresses) ∨
      (∀ path, renderString (templateValues (searchFor "engineer") 0) true
        querySegment.pathTemplate = .ok path →
          HttpLibrary.plain.url (querySegment.baseUrl ++ path) = none) ∨
      NoDotSegments querySegment (templateValues (searchFor "engineer") 0)) ∧
    ∀ other otherPage first second,
      @Contained .plain .plain querySegment (templateValues (searchFor "engineer") 0) first →
      @Contained .plain .plain querySegment (templateValues other otherPage) second →
      SameShape first second :=
  @sendRequest_contained_iff .plain .plain querySegment querySegment (by decide +kernel)
    (searchFor "engineer") 0 (fun _ => some ["8.8.8.8"]) fun _ => .accepted

/-- The query `..` removes the segment in front of it: the request goes to the root. -/
theorem dot_query_escapes :
    @ProviderRequestConfig.read TextTables.plain querySegment = .ok querySegment ∧
    ∃ sent ∈ (@sendRequest .plain .plain querySegment (searchFor "..") 0
        (fun _ => some ["8.8.8.8"]) fun _ => .accepted).1,
      sent.path = ['/'] ∧
        ¬@Contained .plain .plain querySegment (templateValues (searchFor "..") 0) sent := by
  refine ⟨by decide +kernel, ?_⟩
  have paths : (@sendRequest .plain .plain querySegment (searchFor "..") 0
      (fun _ => some ["8.8.8.8"]) fun _ => .accepted).1.map SentRequest.path = [['/']] := by
    decide +kernel
  obtain ⟨sent, only, path⟩ := List.map_eq_singleton_iff.mp paths
  refine ⟨sent, only ▸ List.mem_cons_self, path, fun contained => ?_⟩
  have segments := (@Contained.segments .plain .plain _ _ _ contained).length_eq
  rw [path] at segments
  revert segments
  decide +kernel

end CareerOS
