/-
This file is the normal form of a job URL. Everything that stores an address of
a vacancy goes through it: the manual snapshot, the preparation of an
application and the reviewed discoveries of an agent.
-/

import CareerOS.Library.Url

namespace CareerOS

open Url

/-- `re.search(r"[\x00-\x20\x7f]", value)` or a backslash. -/
def unsafeUrlCharacter (letter : Char) : Bool :=
  letter == '\\' || letter.toNat ≤ 0x20 || letter.toNat == 0x7f

/-- The path of a normal URL: without dot segments, ending in a slash where the path did. -/
def normalizedPath (path : List Char) : List Char :=
  let rawPath := if path = [] then ['/'] else path
  let path := normpath rawPath
  let path := if rawPath.head? = some '/' ∧ path.head? ≠ some '/' then '/' :: path else path
  if rawPath.getLast? = some '/' ∧ path.getLast? ≠ some '/' then path ++ ['/'] else path

/-- `normalize_job_url`. -/
def normalizeJobUrl [TextTables] (value : Option String) (required : Bool) :
    Except String (Option String) :=
  match value.bind Text.stripOrNone with
  | none => if required then .error "A job URL is required" else .ok none
  | some normalized => do
    if normalized.length > 2048 then throw "Job URLs cannot exceed 2048 characters"
    if normalized.toList.any unsafeUrlCharacter then throw "Job URL contains unsafe characters"
    let parsed ← urlsplit normalized
    match parsed.hostname with
    | none => throw "Job URLs must use http or https"
    | some host =>
      if TextTables.lower parsed.scheme ∉ ["http", "https"] then
        throw "Job URLs must use http or https"
      if parsed.hasCredentials then throw "Job URLs cannot contain credentials"
      match parsed.port with
      | .error _ => throw "Job URL contains an invalid port"
      | .ok port =>
        match TextTables.idna host with
        | none => throw "Job URL contains an invalid hostname"
        | some encoded =>
          let hostname := (TextTables.lower encoded).toList
          let hostname := if hostname.contains ':' then '[' :: hostname ++ [']'] else hostname
          let netloc :=
            match port with
            | some port => hostname ++ ':' :: (toString port).toList
            | none => hostname
          return some (urlunsplit (TextTables.lower parsed.scheme) netloc
            (normalizedPath parsed.path) parsed.query)

/-- A URL that is left out stays out. -/
theorem normalizeJobUrl_none [TextTables] : normalizeJobUrl none false = .ok none := rfl

end CareerOS
