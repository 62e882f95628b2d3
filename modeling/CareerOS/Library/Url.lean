/-
This file is `urllib.parse.urlsplit`, `urlunsplit` and `posixpath.normpath` on
the inputs a program hands them after it has refused white space and control
characters, so the parts that remove those do nothing here. What needs the
Unicode tables or a full reader of IP addresses stays a parameter.
-/

import CareerOS.Library.Text

namespace CareerOS

/-- The Unicode and address tables behind `urllib.parse`. -/
class TextTables where
  /-- `str.lower()`. -/
  lower : String → String
  lower_lower : ∀ text, lower (lower text) = lower text
  /-- `unicodedata.normalize("NFKC", text)`. -/
  nfkc : String → String
  /-- `text.encode("idna").decode("ascii")`, or nothing on a `UnicodeError`. -/
  idna : String → Option String
  /-- Does `ipaddress.ip_address(text)` read an IPv6 address? -/
  isIpv6 : String → Bool

/-- The tables on lower-case ASCII text that holds no IPv6 address. -/
@[reducible] def TextTables.plain : TextTables where
  lower := id
  lower_lower := fun _ => rfl
  nfkc := id
  idna := some
  isIpv6 := fun _ => false

namespace Url

/-- `text.partition(mark)`: before the first mark, whether there is one, and after it. -/
def partition (mark : Char) : List Char → List Char × Bool × List Char
  | [] => ([], false, [])
  | letter :: rest =>
    if letter = mark then ([], true, rest)
    else
      let (before, found, after) := partition mark rest
      (letter :: before, found, after)

/-- `text.rpartition(mark)`: before the last mark, whether there is one, and after it. -/
def rpartition (mark : Char) (letters : List Char) : List Char × Bool × List Char :=
  match partition mark letters.reverse with
  | (after, true, before) => (before.reverse, true, after.reverse)
  | (after, false, _) => ([], false, after.reverse)

def isAlpha (letter : Char) : Bool :=
  (0x41 ≤ letter.toNat && letter.toNat ≤ 0x5a) || (0x61 ≤ letter.toNat && letter.toNat ≤ 0x7a)

def isDigit (letter : Char) : Bool := 0x30 ≤ letter.toNat && letter.toNat ≤ 0x39

def isHex (letter : Char) : Bool :=
  isDigit letter || (0x41 ≤ letter.toNat && letter.toNat ≤ 0x46) ||
    (0x61 ≤ letter.toNat && letter.toNat ≤ 0x66)

/-- `urllib.parse.scheme_chars`. -/
def isSchemeChar (letter : Char) : Bool :=
  isAlpha letter || isDigit letter || ['+', '-', '.'].contains letter

def isAscii (letters : List Char) : Bool := letters.all fun letter => letter.toNat < 0x80

/-- The number written by decimal digits. -/
def decimal (digits : List Char) : Nat :=
  digits.foldl (fun value letter => value * 10 + (letter.toNat - 0x30)) 0

structure SplitResult where
  scheme : String
  netloc : List Char
  path : List Char
  query : List Char
  fragment : List Char

/-- `_check_bracketed_host`. -/
def checkBracketedHost [TextTables] (hostname : List Char) : Except String Unit :=
  match hostname with
  | 'v' :: rest =>
    let (version, dot, address) := partition '.' rest
    if version ≠ [] ∧ version.all isHex ∧ dot ∧ address ≠ [] then .ok ()
    else .error "IPvFuture address is invalid"
  | _ =>
    if TextTables.isIpv6 (String.ofList hostname) then .ok ()
    else .error "An IPv4 address cannot be in brackets"

/-- `_check_bracketed_netloc`. -/
def checkBracketedNetloc [TextTables] (netloc : List Char) : Except String Unit :=
  let (_, _, hostnameAndPort) := rpartition '@' netloc
  let (beforeBracket, haveOpenBracket, bracketed) := partition '[' hostnameAndPort
  if haveOpenBracket then
    if beforeBracket ≠ [] then .error "Invalid IPv6 URL"
    else
      let (hostname, _, port) := partition ']' bracketed
      if port ≠ [] ∧ port.head? ≠ some ':' then .error "Invalid IPv6 URL"
      else checkBracketedHost hostname
  else checkBracketedHost (partition ':' hostnameAndPort).1

/-- `_checknetloc`: no delimiter may appear under NFKC that was not there. -/
def checkNetloc [TextTables] (netloc : List Char) : Except String Unit :=
  if netloc = [] ∨ isAscii netloc then .ok ()
  else
    let bare := netloc.filter fun letter => !(['@', ':', '#', '?'].contains letter)
    let normalized := (TextTables.nfkc (String.ofList bare)).toList
    if normalized = bare then .ok ()
    else if normalized.any fun letter => ['/', '?', '#', '@', ':'].contains letter then
      .error "netloc contains invalid characters under NFKC normalization"
    else .ok ()

/-- The scheme in front of the first colon, when it is one. -/
def splitScheme [TextTables] (url : List Char) : String × List Char :=
  match partition ':' url with
  | (first :: rest, true, after) =>
    if isAlpha first ∧ (first :: rest).all isSchemeChar then
      (TextTables.lower (String.ofList (first :: rest)), after)
    else ("", url)
  | _ => ("", url)

/-- `_splitnetloc(url, 2)`. -/
def splitNetloc (url : List Char) : List Char × List Char :=
  (url.drop 2).span fun letter => !(['/', '?', '#'].contains letter)

/-- `urlsplit(url)`. -/
def urlsplit [TextTables] (text : String) : Except String SplitResult := do
  let (scheme, url) := splitScheme text.toList
  let (netloc, url) := if url.take 2 = ['/', '/'] then splitNetloc url else ([], url)
  if netloc.contains '[' ≠ netloc.contains ']' then throw "Invalid IPv6 URL"
  if netloc.contains '[' then checkBracketedNetloc netloc
  let (url, _, fragment) := partition '#' url
  let (path, _, query) := partition '?' url
  checkNetloc netloc
  return ⟨scheme, netloc, path, query, fragment⟩

namespace SplitResult

/-- `_hostinfo`: the host and the text of the port. -/
def hostinfo (parsed : SplitResult) : List Char × List Char :=
  let (_, _, hostinfo) := rpartition '@' parsed.netloc
  let (_, haveOpenBracket, bracketed) := partition '[' hostinfo
  if haveOpenBracket then
    let (hostname, _, port) := partition ']' bracketed
    (hostname, (partition ':' port).2.2)
  else
    let (hostname, _, port) := partition ':' hostinfo
    (hostname, port)

/-- `.hostname`: in lower case up to a zone. -/
def hostname [TextTables] (parsed : SplitResult) : Option String :=
  match parsed.hostinfo.1 with
  | [] => none
  | host =>
    let (name, percent, zone) := partition '%' host
    some (TextTables.lower (String.ofList name) ++
      String.ofList (if percent then '%' :: zone else []))

/-- `.username is not None or .password is not None`. -/
def hasCredentials (parsed : SplitResult) : Bool := (rpartition '@' parsed.netloc).2.1

/-- `.port`. -/
def port (parsed : SplitResult) : Except String (Option Nat) :=
  match parsed.hostinfo.2 with
  | [] => .ok none
  | digits =>
    if digits.all isDigit then
      if decimal digits ≤ 65535 then .ok (some (decimal digits))
      else .error "Port out of range 0-65535"
    else .error "Port could not be cast to integer value"

end SplitResult

/-- `urlunsplit((scheme, netloc, path, query, ""))` for a network location that is not empty. -/
def urlunsplit (scheme : String) (netloc path query : List Char) : String :=
  let rooted := if path ≠ [] ∧ path.head? ≠ some '/' then '/' :: path else path
  let query := if query = [] then [] else '?' :: query
  scheme ++ ":" ++ String.ofList ('/' :: '/' :: netloc ++ rooted ++ query)

/-- One component of `normpath`; the kept components are newest first. -/
def normComponent (rooted : Bool) (kept : List (List Char)) (component : List Char) :
    List (List Char) :=
  if component = [] ∨ component = ['.'] then kept
  else if component ≠ ['.', '.'] ∨ (¬rooted ∧ kept = []) ∨ kept.head? = some ['.', '.'] then
    component :: kept
  else kept.tail

/-- `posixpath.normpath(path)`. -/
def normpath (path : List Char) : List Char :=
  let slashes :=
    if path.take 1 ≠ ['/'] then 0
    else if path.take 2 = ['/', '/'] ∧ path.take 3 ≠ ['/', '/', '/'] then 2
    else 1
  let kept := (path.splitOn '/').foldl (normComponent (slashes ≠ 0)) []
  let normal := List.replicate slashes '/' ++ ['/'].intercalate kept.reverse
  if normal = [] then ['.'] else normal

end Url

end CareerOS
