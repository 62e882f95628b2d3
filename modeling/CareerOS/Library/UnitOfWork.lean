/-
This file is what a session of the database writes at its commit. A session
holds the row as it read it; a program assigns attributes of it; the commit
writes the columns whose assigned value differs from the one that was read, on
the row as it is by then. Any other column keeps what other sessions wrote.
-/

import CareerOS.Library.Json

namespace CareerOS

/-- `first == second` on what JSON columns hold. -/
class JsonEquality where
  equal : Json → Json → Bool

/-- Equality along the tree. -/
@[reducible] def JsonEquality.plain : JsonEquality where
  equal first second := decide (first = second)

/-- The column after a commit: written where the assigned value is not the one that was read. -/
def flushed {Value : Type} [DecidableEq Value] (seen current : Value) : Option Value → Value
  | none => current
  | some assigned => if assigned = seen then current else assigned

/-- A column of moments. One that is read has no time zone and one that is assigned has, and the
two are never equal. -/
def flushedMoment (seen current : Option Int) : Option (Option Int) → Option Int
  | none => current
  | some none => if seen = none then current else none
  | some (some assigned) => some assigned

/-- A column that holds a JSON object. -/
def flushedObject [JsonEquality] (seen current : Dict String Json) :
    Option (Dict String Json) → Dict String Json
  | none => current
  | some assigned =>
    if JsonEquality.equal (.obj assigned) (.obj seen) then current else assigned

section

variable {Value : Type} [DecidableEq Value] {seen current assigned : Value}

theorem flushed_of_ne (new : assigned ≠ seen) :
    flushed seen current (some assigned) = assigned := if_neg new

theorem flushed_of_same (same : current = seen) :
    flushed seen current (some assigned) = assigned := by
  unfold flushed
  dsimp only
  split
  · rename_i unchanged
    exact same.trans unchanged.symm
  · rfl

end

theorem flushedMoment_of_same {seen current : Option Int} (same : current = seen) :
    flushedMoment seen current (some none) = none := by
  unfold flushedMoment
  dsimp only
  split
  · rename_i null
    exact same.trans null
  · rfl

end CareerOS
