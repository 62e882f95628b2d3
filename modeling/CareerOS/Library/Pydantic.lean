/-
This file is what a model of a program validated by pydantic needs from pydantic
itself: reading integers and aware times out of JSON values, in the lax mode of
a Python value and in the strict mode of a JSON text, and writing times. Their
full grammars (numeric strings, floats with an integral value, Unix times, every
accepted offset) stay a parameter. What the program relies on is stated as the
laws: what pydantic wrote it reads back in both modes, an integer is read as
itself, and the text of a time is short.

A time that carries no offset is refused by the program wherever it reads one,
and one that does is converted to UTC, so reading a time here is both.
-/

import CareerOS.Library.DateTime
import CareerOS.Library.Json

namespace CareerOS

/-- How strictly pydantic reads a value. -/
inductive ReadMode
  | lax
  | strict
  deriving DecidableEq

/-- The readers and writers of pydantic and of `datetime`. -/
class Pydantic where
  readInt : ReadMode → Json → Option Int
  readDateTime : ReadMode → Json → Option DateTime
  /-- `model_dump(mode="json")` of a time. -/
  dumpDateTime : DateTime → String
  /-- `datetime.isoformat()`. -/
  isoformat : DateTime → String
  readInt_int : ∀ mode value, readInt mode (.int value) = some value
  readDateTime_dump : ∀ mode moment, readDateTime mode (.str (dumpDateTime moment)) = some moment
  length_dumpDateTime : ∀ moment, (dumpDateTime moment).length ≤ 32
  length_isoformat : ∀ moment, (isoformat moment).length ≤ 32

/-- `str(UUID(value)) == value`: lower-case hexadecimal digits in groups of 8, 4, 4, 4 and 12. -/
def canonicalUuid (value : String) : Bool :=
  value.length == 36 && (value.toList.zipIdx.all fun (letter, position) =>
    if position = 8 ∨ position = 13 ∨ position = 18 ∨ position = 23 then letter == '-'
    else (0x30 ≤ letter.toNat && letter.toNat ≤ 0x39) ||
      (0x61 ≤ letter.toNat && letter.toNat ≤ 0x66))

theorem length_of_canonicalUuid {value : String} (canonical : canonicalUuid value = true) :
    value.length = 36 := by
  unfold canonicalUuid at canonical
  rw [Bool.and_eq_true] at canonical
  exact eq_of_beq canonical.1

/-- The identifiers derived from names. -/
class NamedIds where
  /-- `str(uuid.uuid5(uuid.NAMESPACE_URL, name))`. -/
  uuid5 : String → String
  canonical_uuid5 : ∀ name, canonicalUuid (uuid5 name) = true

/-- Every name has the same identifier. -/
@[reducible] def NamedIds.single : NamedIds where
  uuid5 := fun _ => "6ba7b811-9dad-51d1-80b4-00c04fd430c8"
  canonical_uuid5 := fun _ => by decide

namespace Pydantic

attribute [simp] readInt_int readDateTime_dump

/-! ### A reader of exactly what is written -/

/-- The integers and UTC times pydantic writes, read back as they are; any other spelling is
refused. -/
@[reducible] def canonical : Pydantic where
  readInt := fun _ value =>
    match value with
    | .int value => some value
    | _ => none
  readDateTime := fun _ value =>
    match value with
    | .str text => DateTime.readIso ['Z'] text.toList
    | _ => none
  dumpDateTime := fun moment => String.ofList (DateTime.isoWith ['Z'] moment)
  isoformat := fun moment => String.ofList (DateTime.isoWith "+00:00".toList moment)
  readInt_int := fun _ _ => rfl
  readDateTime_dump := by
    intro _ moment
    show DateTime.readIso ['Z'] (String.ofList _).toList = some moment
    rw [String.toList_ofList]
    exact DateTime.readIso_isoWith (by decide) moment
  length_dumpDateTime := by
    intro moment
    rw [String.length_ofList]
    exact le_trans (DateTime.length_isoWith_le _ moment) (by decide)
  length_isoformat := by
    intro moment
    rw [String.length_ofList]
    exact le_trans (DateTime.length_isoWith_le _ moment) (by decide)

end Pydantic

end CareerOS
