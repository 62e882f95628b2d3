/-
This file is what `normalize_job_url` promises of the address it returns: a web address with
a host and without what an address may hide, that it accepts again and returns as it is. The
checks are made on the address as it was given and the host is put into IDNA after them. So
the promise is kept when the host is still one an address can hold, when what is in front of
the fragment does not end in white space, and when the address still fits. And an address
that cannot be split is no refusal of the function.
-/

import CareerOS.Jobs.Urls
import CareerOS.Library.UrlAuthority
import CareerOS.Library.UrlPath

namespace CareerOS

open Url

/-! ### The paths -/

variable {path : List Char}

theorem normalizedPath_rooted (rooted : path = [] ∨ path.head? = some '/') :
    ∃ slashes components, (NormalPath (normalizedPath path) slashes components ∨
        (components ≠ [] ∧ ∃ front, NormalPath front slashes components ∧
          normalizedPath path = front ++ ['/'])) ∧
      ∀ part ∈ components, part ⊆ path := by
  unfold normalizedPath
  by_cases empty : path = []
  · subst empty
    exact ⟨1, [], .inl ⟨by decide, .inl rfl, nofun⟩, nofun⟩
  · have slash := rooted.resolve_left empty
    obtain ⟨slashes, components, normal, inside⟩ := normalPath_normpath slash
    have front : ¬(path.head? = some '/' ∧ (normpath path).head? ≠ some '/') :=
      fun both => both.2 normal.rooted
    simp only [if_neg empty, if_neg front]
    refine ⟨slashes, components, ?_, inside⟩
    split
    · rename_i behind
      refine .inr ⟨?_, _, normal, rfl⟩
      rintro rfl
      exact behind.2 normal.last_of_nil
    · exact .inl normal

theorem head?_normalizedPath (rooted : path = [] ∨ path.head? = some '/') :
    (normalizedPath path).head? = some '/' := by
  obtain ⟨slashes, components, normal | ⟨-, front, normal, made⟩, -⟩ := normalizedPath_rooted rooted
  · exact normal.rooted
  · rw [made, List.head?_append, normal.rooted]
    rfl

/-- The path of a normal URL is normal. -/
theorem normalizedPath_normalizedPath (rooted : path = [] ∨ path.head? = some '/') :
    normalizedPath (normalizedPath path) = normalizedPath path := by
  have head := head?_normalizedPath rooted
  obtain ⟨slashes, components, shape, -⟩ := normalizedPath_rooted rooted
  generalize normalizedPath path = normal at head shape
  have full : normal ≠ [] := by
    rintro rfl
    cases head
  have again : ∀ text : List Char, text.head? = some '/' →
      ¬(normal.head? = some '/' ∧ text.head? ≠ some '/') := fun text here both => both.2 here
  unfold normalizedPath
  simp only [if_neg full]
  rcases shape with fixed | ⟨some, front, fixed, rfl⟩
  · rw [fixed.normpath_eq, if_neg (again normal fixed.rooted)]
    exact if_neg fun both => both.2 both.1
  · rw [fixed.normpath_slash some, if_neg (again front fixed.rooted), if_pos]
    exact ⟨List.getLast?_concat, fixed.last_ne some⟩

theorem mem_normalizedPath (rooted : path = [] ∨ path.head? = some '/')
    {letter : Char} (member : letter ∈ normalizedPath path) : letter = '/' ∨ letter ∈ path := by
  obtain ⟨slashes, components, normal | ⟨-, front, normal, made⟩, inside⟩ :=
    normalizedPath_rooted rooted
  · rcases normal.mem member with slash | ⟨part, known, here⟩
    · exact .inl slash
    · exact .inr (inside part known here)
  · rw [made] at member
    rcases List.mem_append.mp member with early | last
    · rcases normal.mem early with slash | ⟨part, known, here⟩
      · exact .inl slash
      · exact .inr (inside part known here)
    · exact .inl (List.mem_singleton.mp last)

/-- A path that is there becomes no longer. -/
theorem length_normalizedPath_le (rooted : path.head? = some '/') :
    (normalizedPath path).length ≤ path.length := by
  obtain ⟨shorter, loses⟩ := length_normpath_le rooted
  obtain ⟨slashes, components, normal, -⟩ := normalPath_normpath rooted
  have full : path ≠ [] := by
    rintro rfl
    cases rooted
  have front : ¬(path.head? = some '/' ∧ (normpath path).head? ≠ some '/') :=
    fun both => both.2 normal.rooted
  unfold normalizedPath
  simp only [if_neg full, if_neg front]
  split
  · rename_i ends
    rw [List.length_append]
    exact loses ends.1 ends.2
  · exact shorter

/-! ### The function and what it raises -/

/-- What `normalize_job_url` raises. -/
inductive UrlFailure
  /-- `UnsafeJobUrlError`. -/
  | refused (message : String)
  /-- A `ValueError` of `urlsplit`. The callers catch only the other one. -/
  | notSplit (message : String)
  deriving DecidableEq

def UrlFailure.message : UrlFailure → String
  | .refused message => message
  | .notSplit message => message

/-- `normalize_job_url`, with the kinds of what it raises. -/
def normalizeJobUrlRaising [TextTables] (value : Option String) (required : Bool) :
    Except UrlFailure (Option String) :=
  match value.bind Text.stripOrNone with
  | none => if required then .error (.refused "A job URL is required") else .ok none
  | some normalized => do
    refuseWhen (2048 < normalized.length) (.refused "Job URLs cannot exceed 2048 characters")
    refuseWhen (normalized.toList.any unsafeUrlCharacter = true)
      (.refused "Job URL contains unsafe characters")
    let parsed ← (urlsplit normalized).mapError .notSplit
    refuseWhen (TextTables.lower parsed.scheme ∉ ["http", "https"] ∨ parsed.hostname = none)
      (.refused "Job URLs must use http or https")
    refuseWhen (parsed.hasCredentials = true) (.refused "Job URLs cannot contain credentials")
    let port ← parsed.port.mapError fun _ => .refused "Job URL contains an invalid port"
    match (parsed.hostname.bind TextTables.idna) with
    | none => throw (.refused "Job URL contains an invalid hostname")
    | some encoded =>
      return some (urlunsplit (TextTables.lower parsed.scheme)
        (netlocOf (TextTables.lower encoded).toList port) (normalizedPath parsed.path) parsed.query)

/-- The two readings of the function agree but for the kinds of what is raised. -/
theorem normalizeJobUrl_eq [TextTables] (value : Option String) (required : Bool) :
    normalizeJobUrl value required =
      (normalizeJobUrlRaising value required).mapError UrlFailure.message := by
  unfold normalizeJobUrl normalizeJobUrlRaising
  cases value.bind Text.stripOrNone with
  | none =>
    dsimp only
    cases required <;> rfl
  | some normalized =>
    dsimp only
    by_cases long : 2048 < normalized.length
    · simp only [refuseWhen, if_pos long]
      rfl
    · by_cases unsafe_ : normalized.toList.any unsafeUrlCharacter = true
      · simp only [refuseWhen, if_neg long, if_pos unsafe_]
        rfl
      · simp only [refuseWhen, if_neg long, if_neg unsafe_]
        cases urlsplit normalized with
        | error problem => rfl
        | ok parsed =>
          simp only [Except.mapError, Except.bind, bind]
          cases parsed.hostname with
          | none =>
            simp only [or_true, if_true]
            rfl
          | some host =>
            by_cases web : TextTables.lower parsed.scheme ∈ ["http", "https"]
            · have passes : ¬(TextTables.lower parsed.scheme ∉ ["http", "https"] ∨
                  some host = none) := by simp [web]
              simp only [if_neg (not_not.mpr web), if_neg passes]
              by_cases named : parsed.hasCredentials = true
              · simp only [if_pos named]
                rfl
              · simp only [if_neg named]
                cases parsed.port with
                | error problem => rfl
                | ok port =>
                  cases idna : TextTables.idna host with
                  | none =>
                    simp only [Option.bind, idna]
                    rfl
                  | some encoded =>
                    simp only [Option.bind, idna]
                    unfold netlocOf portText
                    cases port <;> simp <;> rfl
            · have refused : TextTables.lower parsed.scheme ∉ ["http", "https"] ∨
                  some host = none := .inl web
              simp only [if_pos web, if_pos refused]
              rfl

/-! ### What is accepted -/

/-- An address that passes the checks: its parts, its host in IDNA and its port. -/
structure AcceptedUrl [TextTables] (text : String) (parsed : SplitResult) (host : List Char)
    (port : Option Nat) : Prop where
  short : text.length ≤ 2048
  quiet : text.toList.any unsafeUrlCharacter = false
  split : urlsplit text = .ok parsed
  web : TextTables.lower parsed.scheme ∈ ["http", "https"]
  bare : parsed.hasCredentials = false
  answered : parsed.port = .ok port
  named : ∃ name encoded, parsed.hostname = some name ∧ TextTables.idna name = some encoded ∧
    host = (TextTables.lower encoded).toList

/-- The address that is returned for the parts. -/
def writtenUrl [TextTables] (parsed : SplitResult) (host : List Char) (port : Option Nat) :
    String :=
  urlunsplit (TextTables.lower parsed.scheme) (netlocOf host port) (normalizedPath parsed.path)
    parsed.query

theorem normalizeJobUrlRaising_some_iff [TextTables] {value : Option String} {required : Bool}
    {url : String} : normalizeJobUrlRaising value required = .ok (some url) ↔
      ∃ text, value.bind Text.stripOrNone = some text ∧ ∃ parsed host port,
        AcceptedUrl text parsed host port ∧ url = writtenUrl parsed host port := by
  unfold normalizeJobUrlRaising
  cases value.bind Text.stripOrNone with
  | none =>
    refine iff_of_false ?_ fun found => by obtain ⟨_, impossible, -⟩ := found; cases impossible
    cases required <;> exact nofun
  | some text =>
    simp only [bind_ok_iff, refuseWhen_ok_iff, mapError_ok_iff, not_lt, Bool.not_eq_true, not_or,
      not_not, Option.some.injEq]
    constructor
    · rintro ⟨-, short, -, quiet, parsed, split, -, ⟨web, named⟩, -, bare, port, answered, made⟩
      obtain ⟨name, host⟩ := Option.ne_none_iff_exists'.mp named
      rw [host, Option.bind_some] at made
      cases idna : TextTables.idna name with
      | none =>
        rw [idna] at made
        cases made
      | some encoded =>
        rw [idna] at made
        exact ⟨text, rfl, parsed, _, port, ⟨short, quiet, split, web, bare, answered,
          name, encoded, host, idna, rfl⟩, (Option.some.inj (Except.ok.inj made)).symm⟩
    · rintro ⟨_, rfl, parsed, host, port, accepted, rfl⟩
      obtain ⟨name, encoded, named, idna, rfl⟩ := accepted.named
      refine ⟨(), accepted.short, (), accepted.quiet, parsed, accepted.split, (),
        ⟨accepted.web, by rw [named]; exact nofun⟩, (), accepted.bare, port, accepted.answered, ?_⟩
      rw [named, Option.bind_some, idna]
      rfl

/-- The end of an address is stripped of white space, never up to its path. -/
theorem stripOrNone_written {scheme : String} (web : scheme ∈ ["http", "https"])
    (netloc : List Char) {tail : List Char} (rooted : tail.head? = some '/') :
    Text.stripOrNone (addressText scheme (netloc ++ tail)) =
        some (addressText scheme (netloc ++ tail.rdropWhile Text.isSpace)) ∧
      (tail.rdropWhile Text.isSpace).head? = some '/' := by
  obtain ⟨later, rfl⟩ := List.head?_eq_some_iff.mp rooted
  have slash : Text.isSpace '/' = false := by decide
  have kept : ([] ++ '/' :: later).rdropWhile Text.isSpace =
      [] ++ '/' :: later.rdropWhile Text.isSpace := Text.rdropWhile_append slash later
  rw [List.nil_append, List.nil_append] at kept
  have stripped : Text.strip (addressText scheme (netloc ++ '/' :: later)) =
      addressText scheme (netloc ++ ('/' :: later).rdropWhile Text.isSpace) := by
    rw [strip_addressText web, Text.rdropWhile_append slash, kept]
  refine ⟨?_, by rw [kept]; rfl⟩
  have solid : ¬Text.blank (addressText scheme (netloc ++ '/' :: later)) = true := by
    unfold Text.blank
    rw [stripped, beq_iff_eq]
    intro empty
    have length := congrArg String.length empty
    rw [length_addressText] at length
    simp at length
  unfold Text.stripOrNone
  rw [if_neg solid, stripped]

/-- What an address is made of beside its host and its tail is no character the check refuses. -/
theorem quiet_address {scheme : String} {host : List Char} (web : scheme ∈ ["http", "https"])
    (quiet : host.any unsafeUrlCharacter = false) (port : Option Nat) {tail : List Char}
    (later : ∀ letter ∈ tail, unsafeUrlCharacter letter = false) :
    (addressText scheme (netlocOf host port ++ tail)).toList.any unsafeUrlCharacter = false := by
  have inScheme : ∀ letter ∈ scheme.toList, unsafeUrlCharacter letter = false := by
    have both : ∀ scheme ∈ ["http", "https"], scheme.toList.any unsafeUrlCharacter = false :=
      List.all_iff_forall_prop.mp (by decide)
    simpa using List.any_eq_false.mp (both scheme web)
  have inHost : ∀ letter ∈ host, unsafeUrlCharacter letter = false := by
    simpa using List.any_eq_false.mp quiet
  have marks : ∀ mark ∈ ['[', ']', ':'], unsafeUrlCharacter mark = false :=
    List.all_iff_forall_prop.mp (by decide)
  have digits : ∀ letter, isDigit letter = true → unsafeUrlCharacter letter = false := by
    intro letter digit
    unfold isDigit at digit
    simp only [Bool.and_eq_true, decide_eq_true_eq] at digit
    have slash : letter ≠ '\\' := by
      rintro rfl
      exact absurd digit (by decide)
    unfold unsafeUrlCharacter
    simp only [Bool.or_eq_false_iff, beq_eq_false_iff_ne, decide_eq_false_iff_not]
    exact ⟨⟨slash, by omega⟩, by omega⟩
  rw [List.any_eq_false]
  intro letter member
  rw [Bool.not_eq_true]
  unfold addressText at member
  rw [String.toList_ofList] at member
  rcases List.mem_append.mp member with scheme | member
  · exact inScheme letter scheme
  · simp only [List.mem_cons, List.mem_append] at member
    rcases member with rfl | rfl | rfl | netloc | behind
    · decide
    · decide
    · decide
    · rcases mem_netlocOf netloc with inside | mark | digit
      · exact inHost letter inside
      · exact marks letter mark
      · exact digits letter digit
    · exact later letter behind

/-- What happens to a text that passes the first checks. -/
theorem normalizeJobUrlRaising_of_split [TextTables] {value : Option String} {text : String}
    (given : value.bind Text.stripOrNone = some text) (short : text.length ≤ 2048)
    (quiet : text.toList.any unsafeUrlCharacter = false) (required : Bool) :
    (∃ message, urlsplit text = .error message ∧
        normalizeJobUrlRaising value required = .error (.notSplit message)) ∨
      (∃ parsed, urlsplit text = .ok parsed) ∧
        ((∃ message, normalizeJobUrlRaising value required = .error (.refused message)) ∨
          ∃ url, normalizeJobUrlRaising value required = .ok (some url)) := by
  have loud : ¬text.toList.any unsafeUrlCharacter = true := Bool.not_eq_true _ ▸ quiet
  unfold normalizeJobUrlRaising
  rw [given]
  simp only [refuseWhen, if_neg (not_lt.mpr short), if_neg loud]
  cases urlsplit text with
  | error message => exact .inl ⟨message, rfl, rfl⟩
  | ok parsed =>
    refine .inr ⟨⟨parsed, rfl⟩, ?_⟩
    simp only [Except.mapError, Except.bind, bind]
    by_cases other : TextTables.lower parsed.scheme ∉ ["http", "https"] ∨ parsed.hostname = none
    · simp only [if_pos other]
      exact .inl ⟨_, rfl⟩
    · simp only [if_neg other]
      by_cases named : parsed.hasCredentials = true
      · simp only [if_pos named]
        exact .inl ⟨_, rfl⟩
      · simp only [if_neg named]
        cases parsed.port with
        | error problem => exact .inl ⟨_, rfl⟩
        | ok port =>
          cases parsed.hostname.bind TextTables.idna with
          | none => exact .inl ⟨_, rfl⟩
          | some encoded => exact .inr ⟨_, rfl⟩

/-- What is written behind the network location. -/
def writtenTail (parsed : SplitResult) : List Char :=
  normalizedPath parsed.path ++ marked '?' parsed.query

/-- The parts of the tail make no longer tail. -/
theorem length_writtenTail_le (scheme : String) {netloc tail : List Char}
    (inside : ∀ letter ∈ netloc, inNetloc letter = true) (rooted : tail.head? = some '/') :
    (writtenTail (partsOf scheme (netloc ++ tail))).length ≤ tail.length := by
  have whole := length_tailOf_le scheme (netloc ++ tail)
  obtain ⟨taken, left⟩ := takeWhile_netloc inside rooted
  rw [taken, List.length_append, List.length_append] at whole
  have path : (partsOf scheme (netloc ++ tail)).path.head? = some '/' := by
    obtain ⟨later, rfl⟩ := List.head?_eq_some_iff.mp rooted
    unfold partsOf
    dsimp only
    rw [left]
    simp [partition]
  have shorter := length_normalizedPath_le path
  unfold tailOf at whole
  unfold writtenTail
  simp only [List.length_append] at whole ⊢
  omega

section

variable [HostTables] {text : String} {parsed : SplitResult} {host : List Char}
  {port : Option Nat}

theorem lower_empty : TextTables.lower "" = "" := HostTables.lower_ascii [] rfl

theorem SplitResult.netloc_ne_nil {name : String} (named : parsed.hostname = some name) :
    parsed.netloc ≠ [] := by
  intro empty
  have info : parsed.hostinfo = ([], []) := by
    rw [hostinfo_of_bare (by rw [empty]; exact List.not_mem_nil), empty,
      if_neg List.not_mem_nil]
    rfl
  unfold SplitResult.hostname at named
  rw [info] at named
  cases named

/-- An accepted address is made of its parts. -/
theorem AcceptedUrl.shape (accepted : AcceptedUrl text parsed host port) :
    parsed.scheme ∈ ["http", "https"] ∧ TextTables.lower parsed.scheme = parsed.scheme ∧
      ∃ rest, parsed = partsOf parsed.scheme rest ∧ ∀ letter ∈ rest, letter ∈ text.toList := by
  obtain ⟨name, encoded, named, -, -⟩ := accepted.named
  have web : parsed.scheme ∈ ["http", "https"] := by
    obtain ⟨-, empty | fixed⟩ := splitScheme_spec text.toList
    · have scheme := scheme_of_urlsplit accepted.split
      have web := accepted.web
      rw [scheme, empty, lower_empty] at web
      exact absurd web (by decide)
    · have web := accepted.web
      rw [scheme_of_urlsplit accepted.split, fixed] at web
      rw [scheme_of_urlsplit accepted.split]
      exact web
  obtain ⟨lower, rest, found, -, same⟩ :=
    urlsplit_web accepted.split web (SplitResult.netloc_ne_nil named)
  refine ⟨web, lower, rest, same, fun letter member => ?_⟩
  have inside := (splitScheme_spec text.toList).1 letter
  rw [found] at inside
  exact inside (List.mem_cons_of_mem _ (List.mem_cons_of_mem _ member))

theorem AcceptedUrl.rooted (accepted : AcceptedUrl text parsed host port) :
    parsed.path = [] ∨ parsed.path.head? = some '/' := by
  obtain ⟨-, -, rest, same, -⟩ := accepted.shape
  rw [same]
  exact path_partsOf parsed.scheme rest

/-- The host of an accepted address is ASCII in lower case and holds no delimiter. -/
theorem AcceptedUrl.host_plain (accepted : AcceptedUrl text parsed host port) :
    isAscii host = true ∧ (∀ letter ∈ host, lowerLetter letter = letter) ∧
      ∀ mark ∈ ['/', '?', '#', '@'], mark ∉ host := by
  obtain ⟨name, encoded, named, idna, rfl⟩ := accepted.named
  obtain ⟨web, -, rest, same, -⟩ := accepted.shape
  obtain ⟨-, rest', -, passed, located⟩ := urlsplit_web accepted.split web
    (SplitResult.netloc_ne_nil named)
  have netloc : parsed.netloc = rest'.takeWhile inNetloc := by
    conv_lhs => rw [located]
    rfl
  obtain ⟨ascii, fixed⟩ := lower_idna idna
  refine ⟨ascii, fixed, fun mark known member => ?_⟩
  have low : mark.toNat < 0x61 := by
    have marks : ∀ mark ∈ ['/', '?', '#', '@'], mark.toNat < 0x61 :=
      List.all_iff_forall_prop.mp (by decide)
    exact marks mark known
  have inside := HostTables.idna_checked parsed name encoded (netloc ▸ passed.2.2) named idna mark
    known (mem_of_mem_lower (HostTables.ascii_idna _ _ idna) low member)
  by_cases sign : mark = '@'
  · have bare := accepted.bare
    unfold SplitResult.hasCredentials at bare
    rw [sign] at inside
    have found := (rpartition_found_iff '@' parsed.netloc).mpr inside
    rw [found] at bare
    cases bare
  · rw [netloc] at inside
    have kept := List.mem_takeWhile_imp inside
    have ends : ∀ mark ∈ ['/', '?', '#', '@'], mark ≠ '@' → inNetloc mark = false :=
      List.all_iff_forall_prop.mp (by decide)
    rw [ends mark known sign] at kept
    cases kept

/-- An address that is written so that it is read again. -/
structure WritableUrl (parsed : SplitResult) (host : List Char) (port : Option Nat) : Prop where
  solid : host ≠ []
  labels : labelsFit host = true
  brackets : BracketsFit host
  quiet : host.any unsafeUrlCharacter = false
  short : parsed.scheme.length + 3 + (netlocOf host port).length + (writtenTail parsed).length ≤
    2048
  ends : ∀ letter, (writtenTail parsed).getLast? = some letter → Text.isSpace letter = false

/-- The parts of the address that is written. -/
def rewritten (parsed : SplitResult) (host : List Char) (port : Option Nat) : SplitResult :=
  ⟨parsed.scheme, netlocOf host port, normalizedPath parsed.path, parsed.query, []⟩

/-- Parts that are in normal form but for what makes an address writable. -/
structure PlainParts (parts : SplitResult) (host : List Char) (port : Option Nat) : Prop where
  web : parts.scheme ∈ ["http", "https"]
  lower : TextTables.lower parts.scheme = parts.scheme
  located : parts.netloc = netlocOf host port
  ascii : isAscii host = true
  fixed : ∀ letter ∈ host, lowerLetter letter = letter
  away : ∀ mark ∈ ['/', '?', '#', '@'], mark ∉ host
  small : ∀ number, port = some number → number ≤ 65535
  rooted : parts.path.head? = some '/'
  normal : normalizedPath parts.path = parts.path
  noQuestion : '?' ∉ parts.path
  pathHash : '#' ∉ parts.path
  queryHash : '#' ∉ parts.query
  noFragment : parts.fragment = []
  quiet : ∀ letter ∈ writtenTail parts, unsafeUrlCharacter letter = false

/-- The address of the parts. -/
def partsUrl (parts : SplitResult) (host : List Char) (port : Option Nat) : String :=
  addressText parts.scheme (netlocOf host port ++ writtenTail parts)

theorem AcceptedUrl.plain (accepted : AcceptedUrl text parsed host port) :
    PlainParts (rewritten parsed host port) host port := by
  obtain ⟨web, lower, rest, same, inside⟩ := accepted.shape
  obtain ⟨ascii, fixed, away⟩ := accepted.host_plain
  have rooted := accepted.rooted
  have outside : '?' ∉ parsed.path ∧ '#' ∉ parsed.path ∧ '#' ∉ parsed.query := by
    rw [same]
    have noHash : '#' ∉ (partition '#' (rest.dropWhile inNetloc)).1 := not_mem_partition _ _
    exact ⟨not_mem_partition _ _, fun member => noHash (mem_of_mem_partition (.inl member)),
      fun member => noHash (mem_of_mem_partition (.inr member))⟩
  have part : ∀ letter, letter ∈ parsed.path ∨ letter ∈ parsed.query → letter ∈ text.toList := by
    intro letter member
    rw [same] at member
    have behind : letter ∈ rest.dropWhile inNetloc :=
      mem_of_mem_partition (.inl (mem_of_mem_partition member))
    exact inside letter ((List.dropWhile_sublist _).subset behind)
  have absent : ∀ mark, mark ≠ '/' → mark ∉ parsed.path → mark ∉ normalizedPath parsed.path :=
    fun mark other path member => (mem_normalizedPath rooted member).elim other path
  have fine : ∀ letter ∈ text.toList, unsafeUrlCharacter letter = false := by
    simpa using List.any_eq_false.mp accepted.quiet
  have normal := normalizedPath_normalizedPath rooted
  refine ⟨web, lower, rfl, ascii, fixed, away,
    fun number same => port_le (same ▸ accepted.answered), head?_normalizedPath rooted, normal,
    absent _ (by decide) outside.1, absent _ (by decide) outside.2.1, outside.2.2, rfl, ?_⟩
  intro letter member
  unfold writtenTail rewritten at member
  rw [normal] at member
  rcases List.mem_append.mp member with path | query
  · rcases mem_normalizedPath rooted path with rfl | inPath
    · decide
    · exact fine letter (part letter (.inl inPath))
  · unfold marked at query
    split at query
    · exact absurd query List.not_mem_nil
    · rcases List.mem_cons.mp query with rfl | inQuery
      · decide
      · exact fine letter (part letter (.inr inQuery))

theorem writtenTail_rewritten (accepted : AcceptedUrl text parsed host port) :
    writtenTail (rewritten parsed host port) = writtenTail parsed := by
  show normalizedPath (normalizedPath parsed.path) ++ _ = _
  rw [normalizedPath_normalizedPath accepted.rooted]
  rfl

theorem writtenUrl_eq (accepted : AcceptedUrl text parsed host port) :
    writtenUrl parsed host port = partsUrl (rewritten parsed host port) host port := by
  obtain ⟨-, lower, -⟩ := accepted.shape
  have rooted := head?_normalizedPath accepted.rooted
  have odd : ¬(normalizedPath parsed.path ≠ [] ∧
      (normalizedPath parsed.path).head? ≠ some '/') := fun both => both.2 rooted
  apply String.toList_inj.mp
  unfold partsUrl
  rw [writtenTail_rewritten accepted]
  unfold writtenUrl urlunsplit addressText writtenTail marked rewritten
  rw [lower]
  simp only [if_neg odd, String.toList_append, String.toList_ofList, List.append_assoc,
    List.cons_append]
  rfl

/-! ### Reading an address again -/

section

variable {parts : SplitResult}

theorem PlainParts.netloc_inside (plain : PlainParts parts host port) :
    ∀ letter ∈ netlocOf host port, inNetloc letter = true := by
  intro letter member
  unfold inNetloc
  rw [Bool.not_eq_true', Bool.eq_false_iff]
  intro mark
  have known : letter ∈ ['/', '?', '#'] := List.contains_iff_mem.mp mark
  have facts : ∀ mark ∈ ['/', '?', '#'], mark ∈ ['/', '?', '#', '@'] ∧ mark ∉ ['[', ']', ':'] ∧
      isDigit mark = false := List.all_iff_forall_prop.mp (by decide)
  obtain ⟨delimiter, noBracket, noDigit⟩ := facts letter known
  exact not_mem_netlocOf (plain.away letter delimiter) noBracket noDigit port member

theorem PlainParts.bare (plain : PlainParts parts host port) : '@' ∉ host :=
  plain.away _ (by decide)

theorem PlainParts.head?_tail (plain : PlainParts parts host port) :
    (writtenTail parts).head? = some '/' := by
  unfold writtenTail
  rw [List.head?_append, plain.normal, plain.rooted]
  rfl

theorem PlainParts.made (plain : PlainParts parts host port) :
    (⟨parts.scheme, netlocOf host port, parts.path, parts.query, []⟩ : SplitResult) = parts := by
  obtain ⟨scheme, netloc, path, query, fragment⟩ := parts
  obtain rfl : netloc = netlocOf host port := plain.located
  obtain rfl : fragment = [] := plain.noFragment
  rfl

theorem PlainParts.partsOf_eq (plain : PlainParts parts host port) :
    partsOf parts.scheme (netlocOf host port ++ writtenTail parts) = parts := by
  unfold writtenTail
  rw [plain.normal, partsOf_written parts.scheme plain.netloc_inside plain.rooted plain.noQuestion
    plain.pathHash plain.queryHash, plain.made]

/-- The address that is written can be split when its network location is let pass. -/
theorem PlainParts.urlsplit_iff (plain : PlainParts parts host port) (parsed : SplitResult) :
    urlsplit (partsUrl parts host port) = .ok parsed ↔
      NetlocOk (netlocOf host port) ∧ parsed = parts := by
  unfold partsUrl
  rw [urlsplit_addressText plain.web plain.lower, plain.partsOf_eq,
    (takeWhile_netloc plain.netloc_inside plain.head?_tail).1]

/-- The address that is written is accepted when it can be read. -/
theorem PlainParts.accepted (plain : PlainParts parts host port)
    (writable : WritableUrl parts host port) :
    AcceptedUrl (partsUrl parts host port) parts host port := by
  have info : parts.hostinfo = (host, (portText port).tail) :=
    hostinfo_netlocOf writable.brackets plain.bare plain.located
  refine ⟨?_, ?_, ?_, ?_, ?_, ?_, ?_⟩
  · unfold partsUrl
    rw [length_addressText, List.length_append]
    have short := writable.short
    omega
  · exact quiet_address plain.web writable.quiet port plain.quiet
  · exact (plain.urlsplit_iff _).mpr
      ⟨netlocOk_netlocOf writable.brackets plain.ascii plain.bare port, rfl⟩
  · rw [plain.lower]
    exact plain.web
  · have away : '@' ∉ parts.netloc :=
      plain.located ▸ not_mem_netlocOf plain.bare (by decide) (by decide) port
    exact Bool.eq_false_iff.mpr (mt (rpartition_found_iff '@' _).mp away)
  · exact port_of_written (congrArg Prod.snd info) plain.small
  · refine ⟨String.ofList host, String.ofList host,
      hostname_of_hostinfo (congrArg Prod.fst info) writable.solid plain.ascii plain.fixed,
      (idna_self_iff plain.ascii _).mpr ⟨writable.labels, rfl⟩, ?_⟩
    rw [lower_ofList plain.ascii plain.fixed, String.toList_ofList]

/-- The address is read as it was written when it can be read. -/
theorem PlainParts.returned (plain : PlainParts parts host port)
    (writable : WritableUrl parts host port) (required : Bool) :
    normalizeJobUrlRaising (some (partsUrl parts host port)) required =
      .ok (some (partsUrl parts host port)) := by
  have accepted := plain.accepted writable
  obtain ⟨stripped, -⟩ := stripOrNone_written plain.web (netlocOf host port) plain.head?_tail
  have solid : (writtenTail parts).rdropWhile Text.isSpace = writtenTail parts := by
    rw [List.rdropWhile_eq_self_iff]
    intro full
    rw [Bool.not_eq_true]
    exact writable.ends _ (List.getLast?_eq_some_getLast full)
  have given : (some (partsUrl parts host port)).bind Text.stripOrNone =
      some (partsUrl parts host port) := by
    unfold partsUrl
    rw [Option.bind_some, stripped, solid]
  refine normalizeJobUrlRaising_some_iff.mpr
    ⟨partsUrl parts host port, given, parts, host, port, accepted, ?_⟩
  have same : rewritten parts host port = parts := by
    unfold rewritten
    rw [plain.normal, plain.made]
  rw [writtenUrl_eq accepted, same]

/-- What is read of an address that is written and accepted: its network location, and what is
left of its tail. -/
structure ReadAgain (parts : SplitResult) (host : List Char) (port : Option Nat)
    (again : SplitResult) (name : List Char) : Prop where
  passed : NetlocOk (netlocOf host port)
  scheme : again.scheme = parts.scheme
  located : again.netloc = netlocOf host port
  read : again.hostinfo.1 = name
  solid : name ≠ []
  labels : labelsFit name = true
  parted : again = partsOf parts.scheme
    (netlocOf host port ++ (writtenTail parts).rdropWhile Text.isSpace)

theorem PlainParts.readAgain (plain : PlainParts parts host port) {required : Bool} {url : String}
    (returned : normalizeJobUrlRaising (some (partsUrl parts host port)) required =
      .ok (some url)) :
    ∃ again name number, ReadAgain parts host port again name ∧
      AcceptedUrl (addressText parts.scheme
        (netlocOf host port ++ (writtenTail parts).rdropWhile Text.isSpace)) again name number ∧
        url = writtenUrl again name number := by
  obtain ⟨stripped, left⟩ := stripOrNone_written plain.web (netlocOf host port) plain.head?_tail
  obtain ⟨other, read, again, name, number, passes, made⟩ :=
    normalizeJobUrlRaising_some_iff.mp returned
  unfold partsUrl at read
  rw [Option.bind_some, stripped] at read
  obtain rfl := Option.some.inj read
  refine ⟨again, name, number, ?_, passes, made⟩
  obtain ⟨taken, -⟩ := takeWhile_netloc plain.netloc_inside left
  obtain ⟨passed, parted⟩ := (urlsplit_addressText plain.web plain.lower _ again).mp passes.split
  rw [taken] at passed
  have located : again.netloc = netlocOf host port := by
    rw [parted]
    exact taken
  have scheme : again.scheme = parts.scheme := by
    rw [parted]
    rfl
  have within : ∀ letter ∈ again.hostinfo.1, letter ∈ netlocOf host port :=
    fun letter member => located ▸ mem_of_mem_hostinfo member
  obtain ⟨hostname, encoded, named, idna, rfl⟩ := passes.named
  have full : again.hostinfo.1 ≠ [] := by
    intro empty
    unfold SplitResult.hostname at named
    rw [empty] at named
    cases named
  have ascii : isAscii again.hostinfo.1 = true := isAscii_of_forall fun letter member =>
    forall_of_isAscii (isAscii_netlocOf plain.ascii port) letter (within letter member)
  have fixed : ∀ letter ∈ again.hostinfo.1, lowerLetter letter = letter :=
    fun letter member => lowerLetter_netlocOf plain.fixed port letter (within letter member)
  rw [hostname_of_hostinfo rfl full ascii fixed] at named
  obtain rfl := Option.some.inj named
  obtain ⟨labels, rfl⟩ := (idna_self_iff ascii encoded).mp idna
  rw [lower_ofList ascii fixed, String.toList_ofList]
  exact ⟨passed, scheme, located, rfl, full, labels, parted⟩

/-- An address that is read again from its own network location and loses nothing of its tail can
be read. -/
theorem PlainParts.writable (plain : PlainParts parts host port) {again : SplitResult}
    {name : List Char} {number other : Option Nat} (read : ReadAgain parts host port again name)
    (passes : AcceptedUrl (addressText parts.scheme
      (netlocOf host port ++ (writtenTail parts).rdropWhile Text.isSpace)) again name number)
    (same : netlocOf name other = netlocOf host port)
    (bound : (writtenTail parts).length ≤
      ((writtenTail parts).rdropWhile Text.isSpace).length) :
    WritableUrl parts host port := by
  have brackets := bracketsFit_of_again read.passed plain.bare read.located read.read read.solid
    passes.answered same
  have info := congrArg Prod.fst (hostinfo_netlocOf brackets plain.bare read.located)
  rw [read.read] at info
  dsimp only at info
  subst info
  have kept : (writtenTail parts).rdropWhile Text.isSpace = writtenTail parts :=
    (List.rdropWhile_prefix _ _).eq_of_length_le bound
  have short := passes.short
  have quiet := passes.quiet
  rw [kept] at short quiet
  rw [length_addressText, List.length_append] at short
  refine ⟨read.solid, read.labels, brackets, ?_, by omega, fun letter last => ?_⟩
  · rw [List.any_eq_false] at quiet ⊢
    intro letter member
    refine quiet letter ?_
    unfold addressText netlocOf
    rw [String.toList_ofList]
    refine List.mem_append_right _ (List.mem_cons_of_mem _ (List.mem_cons_of_mem _
      (List.mem_cons_of_mem _ (List.mem_append_left _ (List.mem_append_left _ ?_)))))
    split
    · exact List.mem_append_left _ (List.mem_cons_of_mem _ member)
    · exact member
  · have some : writtenTail parts ≠ [] := by
      intro empty
      rw [empty] at last
      cases last
    have ends := List.rdropWhile_eq_self_iff.mp kept some
    rw [List.getLast?_eq_some_getLast some] at last
    obtain rfl := Option.some.inj last
    exact Bool.eq_false_iff.mpr ends

/-- Two addresses of parts that are one address. -/
theorem PlainParts.eq_of_partsUrl {others : SplitResult} {name : List Char} {number : Option Nat}
    (plain : PlainParts parts host port) (other : PlainParts others name number)
    (scheme : others.scheme = parts.scheme)
    (same : partsUrl parts host port = partsUrl others name number) :
    netlocOf host port = netlocOf name number ∧ writtenTail parts = writtenTail others := by
  unfold partsUrl at same
  rw [scheme] at same
  have whole := addressText_inj same
  obtain ⟨first, second⟩ := takeWhile_netloc plain.netloc_inside plain.head?_tail
  obtain ⟨third, fourth⟩ := takeWhile_netloc other.netloc_inside other.head?_tail
  rw [whole] at first second
  exact ⟨first.symm.trans third, second.symm.trans fourth⟩

/-- An address that is returned as it is can be read. -/
theorem PlainParts.writable_of_returned (plain : PlainParts parts host port) {required : Bool}
    (returned : normalizeJobUrlRaising (some (partsUrl parts host port)) required =
      .ok (some (partsUrl parts host port))) : WritableUrl parts host port := by
  obtain ⟨again, name, number, read, passes, same⟩ := plain.readAgain returned
  rw [writtenUrl_eq passes] at same
  obtain ⟨netloc, tail⟩ := plain.eq_of_partsUrl passes.plain read.scheme same
  refine plain.writable read passes netloc.symm ?_
  obtain ⟨-, left⟩ := stripOrNone_written plain.web (netlocOf host port) plain.head?_tail
  have bound := length_writtenTail_le parts.scheme plain.netloc_inside left
  rw [← read.parted, ← writtenTail_rewritten passes, ← tail] at bound
  exact bound

end

theorem writableUrl_rewritten (accepted : AcceptedUrl text parsed host port) :
    WritableUrl (rewritten parsed host port) host port ↔ WritableUrl parsed host port := by
  have tail := writtenTail_rewritten accepted
  constructor
  · rintro ⟨solid, labels, brackets, quiet, short, ends⟩
    rw [tail] at short ends
    exact ⟨solid, labels, brackets, quiet, short, ends⟩
  · rintro ⟨solid, labels, brackets, quiet, short, ends⟩
    exact ⟨solid, labels, brackets, quiet, tail ▸ short, tail ▸ ends⟩

/-! ### The promise -/

/-- What is promised of an address that is returned. -/
structure NormalJobUrl (url : String) : Prop where
  again : ∀ required, normalizeJobUrlRaising (some url) required = .ok (some url)
  web : ∃ parsed, urlsplit url = .ok parsed ∧ parsed.scheme ∈ ["http", "https"] ∧
    parsed.hostname ≠ none ∧ parsed.hasCredentials = false
  noFragment : '#' ∉ url.toList
  quiet : url.toList.any unsafeUrlCharacter = false
  short : url.length ≤ 2048

/-- The function refuses, or returns what is promised. Nothing else is raised. -/
def KeepsPromise (value : Option String) (required : Bool) : Prop :=
  match normalizeJobUrlRaising value required with
  | .error (.refused _) => True
  | .error (.notSplit _) => False
  | .ok none => normalizeJobUrlRaising none required = .ok none
  | .ok (some url) => NormalJobUrl url

/-- A text of an address that can be split, and written again when it is accepted. -/
structure ReadableUrl (text : String) : Prop where
  splits : ∃ parsed, urlsplit text = .ok parsed
  writable : ∀ parsed host port, AcceptedUrl text parsed host port → WritableUrl parsed host port

theorem PlainParts.hash_not_mem {parts : SplitResult} (plain : PlainParts parts host port) :
    '#' ∉ (partsUrl parts host port).toList := by
  have schemes : ∀ scheme ∈ ["http", "https"], '#' ∉ scheme.toList :=
    List.all_iff_forall_prop.mp (by decide)
  unfold partsUrl addressText
  rw [String.toList_ofList]
  intro member
  rcases List.mem_append.mp member with scheme | member
  · exact schemes _ plain.web scheme
  · simp only [List.mem_cons, List.mem_append] at member
    rcases member with mark | mark | mark | netloc | tail
    · exact absurd mark (by decide)
    · exact absurd mark (by decide)
    · exact absurd mark (by decide)
    · exact absurd (plain.netloc_inside _ netloc) (by decide)
    · unfold writtenTail at tail
      rw [plain.normal] at tail
      exact (List.mem_append.mp tail).elim plain.pathHash
        (not_mem_marked (by decide) plain.queryHash)

theorem AcceptedUrl.normal (accepted : AcceptedUrl text parsed host port)
    (writable : WritableUrl parsed host port) : NormalJobUrl (writtenUrl parsed host port) := by
  have plain := accepted.plain
  have fits := (writableUrl_rewritten accepted).mpr writable
  have again := plain.accepted fits
  obtain ⟨name, encoded, named, -⟩ := again.named
  rw [writtenUrl_eq accepted]
  exact ⟨plain.returned fits, ⟨_, again.split, plain.web, by rw [named]; exact nofun,
    again.bare⟩, plain.hash_not_mem, again.quiet, again.short⟩

theorem AcceptedUrl.unique {other : SplitResult} {name : List Char} {number : Option Nat}
    (accepted : AcceptedUrl text parsed host port) (again : AcceptedUrl text other name number) :
    other = parsed ∧ name = host ∧ number = port := by
  obtain rfl := Except.ok.inj (again.split.symm.trans accepted.split)
  obtain ⟨first, firstEncoded, firstNamed, firstIdna, rfl⟩ := accepted.named
  obtain ⟨second, secondEncoded, secondNamed, secondIdna, rfl⟩ := again.named
  obtain rfl := Option.some.inj (firstNamed.symm.trans secondNamed)
  obtain rfl := Option.some.inj (firstIdna.symm.trans secondIdna)
  exact ⟨rfl, rfl, Except.ok.inj (again.answered.symm.trans accepted.answered)⟩

theorem normalizeJobUrl_keepsPromise_iff (value : Option String) (required : Bool) :
    KeepsPromise value required ↔
      ∀ text, value.bind Text.stripOrNone = some text → text.length ≤ 2048 →
        text.toList.any unsafeUrlCharacter = false → ReadableUrl text := by
  cases given : value.bind Text.stripOrNone with
  | none =>
    refine iff_of_true ?_ nofun
    unfold KeepsPromise normalizeJobUrlRaising
    rw [given]
    cases required
    · rfl
    · trivial
  | some text =>
    by_cases short : text.length ≤ 2048
    · by_cases quiet : text.toList.any unsafeUrlCharacter = false
      · have only : (∀ other, some text = some other → other.length ≤ 2048 →
            other.toList.any unsafeUrlCharacter = false → ReadableUrl other) ↔
            ReadableUrl text := by
          refine ⟨fun all => all text rfl short quiet, fun readable other same _ _ => ?_⟩
          exact Option.some.inj same ▸ readable
        rw [only]
        rcases normalizeJobUrlRaising_of_split given short quiet required with
          ⟨message, fails, raised⟩ | ⟨splits, ⟨message, raised⟩ | ⟨url, returned⟩⟩
        · unfold KeepsPromise
          rw [raised]
          refine iff_of_false id fun readable => ?_
          obtain ⟨parsed, split⟩ := readable.splits
          rw [fails] at split
          cases split
        · unfold KeepsPromise
          rw [raised]
          refine iff_of_true trivial ⟨splits, fun parsed host port accepted => ?_⟩
          have returned : normalizeJobUrlRaising value required =
              .ok (some (writtenUrl parsed host port)) := normalizeJobUrlRaising_some_iff.mpr
            ⟨text, given, parsed, host, port, accepted, rfl⟩
          rw [raised] at returned
          cases returned
        · unfold KeepsPromise
          rw [returned]
          obtain ⟨other, same, parsed, host, port, accepted, rfl⟩ :=
            normalizeJobUrlRaising_some_iff.mp returned
          rw [given] at same
          obtain rfl := Option.some.inj same
          constructor
          · intro normal
            refine ⟨splits, fun other name number again => ?_⟩
            obtain ⟨rfl, rfl, rfl⟩ := accepted.unique again
            have returned := normal.again required
            rw [writtenUrl_eq accepted] at returned
            exact (writableUrl_rewritten accepted).mp (accepted.plain.writable_of_returned returned)
          · exact fun readable => accepted.normal (readable.writable _ _ _ accepted)
      · have loud : text.toList.any unsafeUrlCharacter = true :=
          (Bool.not_eq_false _).mp quiet
        refine iff_of_true ?_ fun other same _ silent => ?_
        · unfold KeepsPromise normalizeJobUrlRaising
          rw [given]
          simp only [refuseWhen, if_neg (not_lt.mpr short), if_pos loud]
          trivial
        · obtain rfl := Option.some.inj same
          exact absurd silent quiet
    · refine iff_of_true ?_ fun other same small _ => ?_
      · unfold KeepsPromise normalizeJobUrlRaising
        rw [given]
        simp only [refuseWhen, if_pos (not_le.mp short)]
        trivial
      · obtain rfl := Option.some.inj same
        exact absurd small short

end

/-- An address with one bracket is a `ValueError` that no caller catches, and one with white space
in front of its fragment is returned with the white space, which the next call strips. -/
theorem normalizeJobUrl_breaksPromise :
    ¬@KeepsPromise HostTables.ascii (some "http://[abc/jobs") true ∧
      ¬@KeepsPromise HostTables.ascii (some "https://example.test/jobs\u00a0#apply") true := by
  have fails : @normalizeJobUrlRaising HostTables.ascii.toTextTables (some "http://[abc/jobs")
      true = .error (.notSplit "Invalid IPv6 URL") := by decide +kernel
  have first : @normalizeJobUrlRaising HostTables.ascii.toTextTables
      (some "https://example.test/jobs\u00a0#apply") true =
        .ok (some "https://example.test/jobs\u00a0") := by decide +kernel
  have second : @normalizeJobUrlRaising HostTables.ascii.toTextTables
      (some "https://example.test/jobs\u00a0") true =
        .ok (some "https://example.test/jobs") := by decide +kernel
  unfold KeepsPromise
  rw [fails, first]
  refine ⟨id, fun normal => ?_⟩
  have again := second.symm.trans (@NormalJobUrl.again HostTables.ascii _ normal true)
  exact absurd (Option.some.inj (Except.ok.inj again)) (by decide)

end CareerOS
