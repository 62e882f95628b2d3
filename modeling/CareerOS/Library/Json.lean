/-
This file is the JSON value a Python program holds: the constants, integers,
floats, strings, lists and dictionaries that `json` writes and reads. A float is
kept as its shortest text, which is what is written for it. A dictionary is the
list of its items in insertion order.

Two measures matter to a program that bounds what it stores: the number of
bytes of the compact UTF-8 text, and the number of values in the tree. Sorting
the keys of an object changes neither, so one size serves every key order.
-/

import CareerOS.Library.Dict

namespace CareerOS

/-- A JSON value. -/
inductive Json
  | null
  | bool (value : Bool)
  | int (value : Int)
  /-- A float, as its shortest text. -/
  | float (text : String)
  | str (text : String)
  | arr (items : List Json)
  | obj (fields : List (String × Json))

namespace Json

mutual

/-- Equality of values is decided along the tree. -/
def decEq : (first second : Json) → Decidable (first = second)
  | .null, .null => isTrue rfl
  | .bool a, .bool b => decidable_of_iff (a = b) (by simp)
  | .int a, .int b => decidable_of_iff (a = b) (by simp)
  | .float a, .float b => decidable_of_iff (a = b) (by simp)
  | .str a, .str b => decidable_of_iff (a = b) (by simp)
  | .arr a, .arr b =>
    match decEqItems a b with
    | isTrue same => isTrue (by rw [same])
    | isFalse other => isFalse (by simpa using other)
  | .obj a, .obj b =>
    match decEqFields a b with
    | isTrue same => isTrue (by rw [same])
    | isFalse other => isFalse (by simpa using other)
  | .null, .bool _ | .null, .int _ | .null, .float _ | .null, .str _ | .null, .arr _
  | .null, .obj _ | .bool _, .null | .bool _, .int _ | .bool _, .float _ | .bool _, .str _
  | .bool _, .arr _ | .bool _, .obj _ | .int _, .null | .int _, .bool _ | .int _, .float _
  | .int _, .str _ | .int _, .arr _ | .int _, .obj _ | .float _, .null | .float _, .bool _
  | .float _, .int _ | .float _, .str _ | .float _, .arr _ | .float _, .obj _ | .str _, .null
  | .str _, .bool _ | .str _, .int _ | .str _, .float _ | .str _, .arr _ | .str _, .obj _
  | .arr _, .null | .arr _, .bool _ | .arr _, .int _ | .arr _, .float _ | .arr _, .str _
  | .arr _, .obj _ | .obj _, .null | .obj _, .bool _ | .obj _, .int _ | .obj _, .float _
  | .obj _, .str _ | .obj _, .arr _ => isFalse (by simp)

def decEqItems : (first second : List Json) → Decidable (first = second)
  | [], [] => isTrue rfl
  | [], _ :: _ | _ :: _, [] => isFalse (by simp)
  | a :: first, b :: second =>
    match decEq a b, decEqItems first second with
    | isTrue head, isTrue tail => isTrue (by rw [head, tail])
    | isFalse head, _ => isFalse (by simp [head])
    | _, isFalse tail => isFalse (by simp [tail])

def decEqFields : (first second : Dict String Json) → Decidable (first = second)
  | [], [] => isTrue rfl
  | [], _ :: _ | _ :: _, [] => isFalse (by simp)
  | (k, a) :: first, (l, b) :: second =>
    match (inferInstance : Decidable (k = l)), decEq a b, decEqFields first second with
    | isTrue key, isTrue head, isTrue tail => isTrue (by rw [key, head, tail])
    | isFalse key, _, _ => isFalse (by simp [key])
    | _, isFalse head, _ => isFalse (by simp [head])
    | _, _, isFalse tail => isFalse (by simp [tail])

end

instance : DecidableEq Json := decEq

/-! ### Values of columns -/

/-- A text that may be null, in a JSON document. -/
def ofText (text : Option String) : Json :=
  match text with
  | some text => .str text
  | none => .null

/-- A list of texts, in a JSON document. -/
def ofTexts (texts : List String) : Json := .arr (texts.map .str)

/-! ### The size of the compact text -/

/-- The bytes `json.dumps` writes for one character of a string with `ensure_ascii=False`:
the quote, the backslash and five control characters have a two-byte escape, the other
control characters are written `\u00XX`. -/
def escapedSize (letter : Char) : Nat :=
  if letter.toNat ∈ [0x22, 0x5c, 0x08, 0x09, 0x0a, 0x0c, 0x0d] then 2
  else if letter.toNat < 0x20 then 6
  else letter.utf8Size

/-- The bytes of a quoted string. -/
def quotedSize (text : String) : Nat := 2 + (text.toList.map escapedSize).sum

mutual

/-- The number of bytes of
`json.dumps(value, ensure_ascii=False, separators=(",", ":")).encode("utf-8")`. -/
def encodedSize : Json → Nat
  | .null => 4
  | .bool true => 4
  | .bool false => 5
  | .int value => (toString value).length
  | .float text => text.length
  | .str text => quotedSize text
  | .arr items => 2 + encodedSizeItems items
  | .obj fields => 2 + encodedSizeFields fields

/-- The items of a list with the commas between them. -/
def encodedSizeItems : List Json → Nat
  | [] => 0
  | [item] => encodedSize item
  | item :: next :: rest => encodedSize item + 1 + encodedSizeItems (next :: rest)

/-- The items of a dictionary with their colons and the commas between them. -/
def encodedSizeFields : Dict String Json → Nat
  | [] => 0
  | [(key, item)] => quotedSize key + 1 + encodedSize item
  | (key, item) :: next :: rest =>
    quotedSize key + 1 + encodedSize item + 1 + encodedSizeFields (next :: rest)

end

theorem escapedSize_le (letter : Char) : escapedSize letter ≤ 6 := by
  unfold escapedSize
  split
  · omega
  · split
    · omega
    · exact le_trans (Char.utf8Size_le_four letter) (by omega)

/-- A string of at most so many characters is written in at most six bytes each. -/
theorem quotedSize_le {text : String} {limit : Nat} (short : text.length ≤ limit) :
    quotedSize text ≤ 2 + 6 * limit := by
  have bound : (text.toList.map escapedSize).sum ≤ text.toList.length * 6 := by
    induction text.toList with
    | nil => exact le_rfl
    | cons letter rest inductionHypothesis =>
      rw [List.map_cons, List.sum_cons, List.length_cons]
      have head := escapedSize_le letter
      omega
  have count : text.toList.length = text.length := String.length_toList
  unfold quotedSize
  omega

theorem encodedSizeFields_le {fields : Dict String Json} {bound : Nat}
    (each : ∀ field ∈ fields, quotedSize field.1 + encodedSize field.2 + 2 ≤ bound) :
    encodedSizeFields fields ≤ fields.length * bound := by
  induction fields with
  | nil => exact Nat.zero_le _
  | cons field rest inductionHypothesis =>
    obtain ⟨key, item⟩ := field
    have here : quotedSize key + encodedSize item + 2 ≤ bound := each (key, item) List.mem_cons_self
    have there := inductionHypothesis fun other member => each other (List.mem_cons_of_mem _ member)
    rw [List.length_cons, Nat.succ_mul]
    cases rest with
    | nil =>
      unfold encodedSizeFields
      omega
    | cons next rest =>
      unfold encodedSizeFields
      omega

/-- An object of fields of bounded size. -/
theorem encodedSize_obj_le {fields : Dict String Json} {bound : Nat}
    (each : ∀ field ∈ fields, quotedSize field.1 + encodedSize field.2 + 2 ≤ bound) :
    encodedSize (.obj fields) ≤ 2 + fields.length * bound := by
  unfold encodedSize
  exact Nat.add_le_add_left (encodedSizeFields_le each) 2

theorem encodedSize_natCast_le {value digits : Nat} (positive : 0 < digits)
    (small : value < 10 ^ digits) : encodedSize (.int value) ≤ digits := by
  unfold encodedSize
  exact (Nat.length_repr_le_iff positive).mpr small

end Json

end CareerOS
