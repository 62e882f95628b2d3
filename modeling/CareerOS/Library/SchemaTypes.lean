/-
This file is the types of the fields of a pydantic model, as what is read of a JSON value
and written again. Pydantic reads scalars laxly: a number may be written as a text, a date as
a moment. These grammars are parameters, whose law is that what is written is read as itself.
-/

import CareerOS.Library.Json

namespace CareerOS

/-- What is read of a value, as it is written again; nothing where the value is refused. -/
abbrev Normal := Json → Option Json

/-- The lax readers of scalars. A float is its shortest text; a date is its ordinal. -/
class LaxScalars where
  readInt : Json → Option Int
  readBool : Json → Option Bool
  readFloat : Json → Option String
  /-- `bound <= number`. -/
  atLeast : Int → String → Bool
  /-- `number <= bound`. -/
  atMost : Int → String → Bool
  /-- `first > second`. -/
  exceeds : String → String → Bool
  readDate : Json → Option Int
  isoDate : Int → String
  /-- A moment, as `model_dump(mode="json")` writes it. -/
  readMoment : Json → Option String
  readInt_int : ∀ value, readInt (.int value) = some value
  readBool_bool : ∀ value, readBool (.bool value) = some value
  readFloat_float : ∀ value text, readFloat value = some text → readFloat (.float text) = some text
  readDate_isoDate : ∀ value date, readDate value = some date →
    readDate (.str (isoDate date)) = some date
  readMoment_str : ∀ value text, readMoment value = some text → readMoment (.str text) = some text

namespace Normal

/-- `str`. -/
def anyText : Normal
  | .str text => some (.str text)
  | _ => none

/-- A type or `None`. -/
def orNull (normal : Normal) : Normal
  | .null => some .null
  | value => normal value

/-- The items, each as it is read. -/
def items (normal : Normal) : List Json → Option (List Json)
  | [] => some []
  | item :: rest => do
    let first ← normal item
    let others ← items normal rest
    pure (first :: others)

section

variable [LaxScalars]

/-- `int` with `ge` and `le`. -/
def integer (least : Int) (greatest : Option Int) : Normal := fun value =>
  match LaxScalars.readInt value with
  | some number =>
    if least ≤ number ∧ (∀ bound ∈ greatest, number ≤ bound) then some (.int number) else none
  | none => none

/-- `bool`. -/
def boolean : Normal := fun value => (LaxScalars.readBool value).map .bool

end

theorem orNull_of_solid {normal : Normal} {value : Json} (solid : value ≠ .null) :
    orNull normal value = normal value := by
  unfold orNull
  split
  · exact absurd rfl solid
  · rfl

end Normal

end CareerOS
