/-
This file is a text of parts with a mark between them: what the parts of a split hold, and
what the parts that are joined put into the text.
-/

import Mathlib

namespace CareerOS

variable {Item : Type}

/-- What a list is split into has no mark and no other items. -/
theorem mem_splitOn [DecidableEq Item] {mark : Item} {items part : List Item}
    (member : part ∈ items.splitOn mark) : mark ∉ part ∧ part ⊆ items := by
  induction length : items.length using Nat.strongRecOn generalizing items with
  | _ bound inductionHypothesis =>
    by_cases marked : mark ∈ items
    · obtain ⟨before, after, rfl, plain⟩ := List.eq_append_cons_of_mem marked
      rw [List.splitOn_append_cons_self_of_not_mem plain] at member
      rcases List.mem_cons.mp member with rfl | later
      · exact ⟨plain, List.subset_append_left _ _⟩
      · have shorter : after.length < bound := by
          rw [← length, List.length_append, List.length_cons]
          omega
        obtain ⟨unmarked, inside⟩ := inductionHypothesis _ shorter later rfl
        exact ⟨unmarked, fun item here => List.mem_append_right _ (List.mem_cons_of_mem _
          (inside here))⟩
    · rw [List.splitOn_eq_singleton marked] at member
      obtain rfl := List.mem_singleton.mp member
      exact ⟨marked, fun item here => here⟩

theorem mem_intercalate {mark item : Item} {parts : List (List Item)}
    (member : item ∈ [mark].intercalate parts) : item = mark ∨ ∃ part ∈ parts, item ∈ part := by
  induction parts with
  | nil => cases member
  | cons first parts inductionHypothesis =>
    cases parts with
    | nil =>
      rw [List.intercalate_singleton] at member
      exact .inr ⟨first, List.mem_cons_self, member⟩
    | cons second parts =>
      rw [List.intercalate_cons_cons, List.mem_append, List.mem_append,
        List.mem_singleton] at member
      rcases member with (here | between) | later
      · exact .inr ⟨first, List.mem_cons_self, here⟩
      · exact .inl between
      · rcases inductionHypothesis later with between | ⟨part, inside, here⟩
        · exact .inl between
        · exact .inr ⟨part, List.mem_cons_of_mem _ inside, here⟩

/-- A list of parts starts as its first part does. -/
theorem head?_intercalate (mark : Item) {first : List Item} (solid : first ≠ [])
    (parts : List (List Item)) :
    ([mark].intercalate (first :: parts)).head? = first.head? := by
  obtain ⟨item, later, rfl⟩ := List.exists_cons_of_ne_nil solid
  cases parts with
  | nil => rfl
  | cons second parts => rfl

/-- A list of parts ends as its last part does. -/
theorem getLast?_intercalate (mark : Item) {parts : List (List Item)}
    (solid : ∀ part ∈ parts, part ≠ []) (some : parts ≠ []) :
    ([mark].intercalate parts).getLast? = (parts.getLast some).getLast? := by
  induction parts with
  | nil => exact absurd rfl some
  | cons first parts inductionHypothesis =>
    cases parts with
    | nil => rw [List.intercalate_singleton, List.getLast_singleton]
    | cons second parts =>
      have later := inductionHypothesis (fun part member => solid part
        (List.mem_cons_of_mem _ member)) (List.cons_ne_nil _ _)
      have full : [mark].intercalate (second :: parts) ≠ [] := by
        intro empty
        rw [empty, List.getLast?_nil] at later
        exact solid _ (List.mem_cons_of_mem _ (List.getLast_mem (List.cons_ne_nil second parts)))
          (List.getLast?_eq_none_iff.mp later.symm)
      rw [List.intercalate_cons_cons, List.getLast?_append_of_ne_nil _ full, later,
        List.getLast_cons (List.cons_ne_nil _ _)]

end CareerOS
