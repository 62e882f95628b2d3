/-
This file is `list(dict.fromkeys(items))`: the items of a list without
repetitions, each where it stands first.
-/

import Mathlib

namespace CareerOS

namespace Distinct

variable {Item : Type*} [DecidableEq Item]

/-- The items in the order of their first places. -/
def firsts : List Item → List Item
  | [] => []
  | item :: rest => item :: (firsts rest).filter fun other => other ≠ item

@[simp] theorem mem_firsts {item : Item} {items : List Item} :
    item ∈ firsts items ↔ item ∈ items := by
  induction items with
  | nil => rfl
  | cons first rest inductionHypothesis =>
    rw [firsts, List.mem_cons, List.mem_cons, List.mem_filter, inductionHypothesis]
    by_cases same : item = first
    · simp [same]
    · simp [same]

theorem nodup_firsts (items : List Item) : (firsts items).Nodup := by
  induction items with
  | nil => exact List.nodup_nil
  | cons first rest inductionHypothesis =>
    refine List.nodup_cons.mpr ⟨fun inside => ?_, inductionHypothesis.filter _⟩
    have different := (List.mem_filter.mp inside).2
    simp at different

theorem firsts_of_nodup {items : List Item} (distinct : items.Nodup) : firsts items = items := by
  induction items with
  | nil => rfl
  | cons first rest inductionHypothesis =>
    obtain ⟨fresh, distinct⟩ := List.nodup_cons.mp distinct
    rw [firsts, inductionHypothesis distinct, List.filter_eq_self.mpr]
    intro other member
    exact decide_eq_true fun same => fresh (same ▸ member)

end Distinct

end CareerOS
