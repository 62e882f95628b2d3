/-
This file is the compact text of a JSON value with the keys of every object in order,
`json.dumps(value, ensure_ascii=False, separators=(",", ":"), sort_keys=True)`.
-/

import CareerOS.Library.Json

namespace CareerOS

namespace Json

/-- A hexadecimal digit. -/
def hexDigit (value : Nat) : Char :=
  if value < 10 then Char.ofNat (0x30 + value) else Char.ofNat (0x57 + value)

/-- A character of a string. -/
def escaped (letter : Char) : List Char :=
  if letter = '"' then ['\\', '"']
  else if letter = '\\' then ['\\', '\\']
  else if letter = '\n' then ['\\', 'n']
  else if letter = '\r' then ['\\', 'r']
  else if letter = '\t' then ['\\', 't']
  else if letter.toNat = 0x08 then ['\\', 'b']
  else if letter.toNat = 0x0c then ['\\', 'f']
  else if letter.toNat < 0x20 then
    ['\\', 'u', '0', '0', hexDigit (letter.toNat / 16), hexDigit (letter.toNat % 16)]
  else [letter]

/-- A quoted string. -/
def quoted (text : String) : List Char := '"' :: text.toList.flatMap escaped ++ ['"']

/-- The items of a list or an object between commas. -/
def commas (items : List (List Char)) : List Char := [','].intercalate items

mutual

/-- The text of a value. -/
def dumps : Json → List Char
  | .null => "null".toList
  | .bool true => "true".toList
  | .bool false => "false".toList
  | .int value => (toString value).toList
  | .float text => text.toList
  | .str text => quoted text
  | .arr items => '[' :: commas (dumpsItems items) ++ [']']
  | .obj fields =>
    let sorted := (dumpsFields fields).insertionSort fun first second => first.1 ≤ second.1
    '{' :: commas (sorted.map fun field => quoted field.1 ++ ':' :: field.2) ++ ['}']

def dumpsItems : List Json → List (List Char)
  | [] => []
  | item :: rest => dumps item :: dumpsItems rest

def dumpsFields : Dict String Json → List (String × List Char)
  | [] => []
  | (key, item) :: rest => (key, dumps item) :: dumpsFields rest

end

end Json

end CareerOS
