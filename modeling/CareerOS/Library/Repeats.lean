/-
This file is what is kept of a list when an item is dropped as soon as it repeats
one that was kept before it. What was dropped is forgotten, so an item that
repeats only dropped ones is kept. The items that repeat nothing before them are
always kept; nothing else is kept exactly when every repetition has such an item
among what it repeats.
-/

import Mathlib

namespace CareerOS

namespace Repeats

section

variable {Item : Type} (repeats : Item → Item → Prop) [DecidableRel repeats]

/-- Keep an item unless it repeats one that was kept. -/
def keep (kept : List Item) (item : Item) : List Item :=
  if ∃ earlier ∈ kept, repeats item earlier then kept else kept ++ [item]

def keptOf (items : List Item) : List Item := items.foldl (keep repeats) []

/-- An item stands somewhere in the list where it repeats nothing before it. -/
def IsFirst (items : List Item) (item : Item) : Prop :=
  ∃ before after, items = before ++ item :: after ∧ ∀ earlier ∈ before, ¬repeats item earlier

/-- What repeats something, in the list or elsewhere, repeats a first item before it. -/
def Rooted (elsewhere : Item → Prop) (items : List Item) : Prop :=
  ∀ before item after, items = before ++ item :: after →
    ((∃ earlier ∈ before, repeats item earlier) ∨ elsewhere item) →
      ∃ first, IsFirst repeats before first ∧ repeats item first

/-! ### What is kept -/

theorem keptOf_concat (items : List Item) (item : Item) :
    keptOf repeats (items ++ [item]) = keep repeats (keptOf repeats items) item := by
  rw [keptOf, List.foldl_append]
  rfl

theorem subset_keep (kept : List Item) (item : Item) : kept ⊆ keep repeats kept item := by
  unfold keep
  split
  · exact List.Subset.refl kept
  · exact List.subset_append_left kept [item]

theorem keptOf_subset (items : List Item) : keptOf repeats items ⊆ items := by
  induction items using List.reverseRecOn with
  | nil => exact List.Subset.refl []
  | append_singleton items item inductionHypothesis =>
    rw [keptOf_concat]
    unfold keep
    split
    · exact List.Subset.trans inductionHypothesis (List.subset_append_left items [item])
    · exact List.append_subset.mpr
        ⟨List.Subset.trans inductionHypothesis (List.subset_append_left items [item]),
          List.subset_append_right items [item]⟩

/-- Nothing that is kept repeats what was kept before it. -/
theorem pairwise_keptOf (items : List Item) :
    (keptOf repeats items).Pairwise fun first second => ¬repeats second first := by
  induction items using List.reverseRecOn with
  | nil => exact List.Pairwise.nil
  | append_singleton items item inductionHypothesis =>
    rw [keptOf_concat]
    unfold keep
    split
    · exact inductionHypothesis
    · next none =>
      refine List.pairwise_append.mpr
        ⟨inductionHypothesis, List.pairwise_singleton _ item, fun earlier member other last => ?_⟩
      obtain rfl := List.mem_singleton.mp last
      exact fun again => none ⟨earlier, member, again⟩

theorem keptOf_append (items more : List Item) :
    keptOf repeats items ⊆ keptOf repeats (items ++ more) := by
  induction more using List.reverseRecOn with
  | nil =>
    rw [List.append_nil]
    exact List.Subset.refl _
  | append_singleton more item inductionHypothesis =>
    rw [← List.append_assoc, keptOf_concat]
    exact List.Subset.trans inductionHypothesis (subset_keep repeats _ item)

variable {items : List Item}

/-- What is kept was kept where it stands. -/
theorem split_of_mem_keptOf {item : Item} (member : item ∈ keptOf repeats items) :
    ∃ before after, items = before ++ item :: after ∧
      ∀ kept ∈ keptOf repeats before, ¬repeats item kept := by
  induction items using List.reverseRecOn with
  | nil => exact absurd member List.not_mem_nil
  | append_singleton items last inductionHypothesis =>
    rw [keptOf_concat] at member
    unfold keep at member
    have earlier (inside : item ∈ keptOf repeats items) : ∃ before after,
        items ++ [last] = before ++ item :: after ∧
          ∀ kept ∈ keptOf repeats before, ¬repeats item kept := by
      obtain ⟨before, after, rfl, apart⟩ := inductionHypothesis inside
      exact ⟨before, after ++ [last], List.append_assoc _ _ _, apart⟩
    split at member
    · exact earlier member
    · next none =>
      rcases List.mem_append.mp member with inside | here
      · exact earlier inside
      · obtain rfl := List.mem_singleton.mp here
        exact ⟨items, [], rfl, fun kept inside again => none ⟨kept, inside, again⟩⟩

/-- What repeats nothing before it is kept. -/
theorem IsFirst.mem_keptOf {item : Item}
    (first : IsFirst repeats items item) : item ∈ keptOf repeats items := by
  obtain ⟨before, after, rfl, apart⟩ := first
  have here : item ∈ keptOf repeats (before ++ [item]) := by
    have none : ¬∃ earlier ∈ keptOf repeats before, repeats item earlier := by
      rintro ⟨earlier, member, again⟩
      exact apart earlier (keptOf_subset repeats before member) again
    rw [keptOf_concat, keep, if_neg none]
    exact List.mem_append_right _ List.mem_cons_self
  have whole := keptOf_append repeats (before ++ [item]) after here
  rwa [List.append_assoc] at whole

/-! ### When only first items are kept -/

theorem Rooted.isFirst {elsewhere : Item → Prop}
    (rooted : Rooted repeats elsewhere items) {before after : List Item}
    (split : items = before ++ after) {item : Item} (member : item ∈ keptOf repeats before) :
    IsFirst repeats before item := by
  obtain ⟨front, back, rfl, apart⟩ := split_of_mem_keptOf repeats member
  refine ⟨front, back, rfl, fun earlier inside again => ?_⟩
  have place : items = front ++ item :: (back ++ after) := by
    rw [split, List.append_assoc, List.cons_append]
  obtain ⟨first, isFirst, repeated⟩ := rooted front item _ place (.inl ⟨earlier, inside, again⟩)
  exact apart first (isFirst.mem_keptOf repeats) repeated

/-- An item is kept exactly if it repeats nothing, before it or elsewhere, when and only when every
repetition repeats a first item. -/
theorem keeps_exactly_iff (elsewhere : Item → Prop) (items : List Item) :
    (∀ before item after, items = before ++ item :: after →
      ((∀ kept ∈ keptOf repeats before, ¬repeats item kept) ↔
        (∀ earlier ∈ before, ¬repeats item earlier) ∧ ¬elsewhere item)) ↔
      Rooted repeats elsewhere items := by
  constructor
  · intro exactly before item after split repetition
    have dropped : ¬∀ kept ∈ keptOf repeats before, ¬repeats item kept := by
      intro apart
      obtain ⟨none, nowhere⟩ := (exactly before item after split).mp apart
      rcases repetition with ⟨earlier, member, again⟩ | also
      · exact none earlier member again
      · exact nowhere also
    obtain ⟨kept, dropped⟩ := not_forall.mp dropped
    obtain ⟨member, again⟩ := Classical.not_imp.mp dropped
    refine ⟨kept, ?_, not_not.mp again⟩
    obtain ⟨front, back, rfl, apart⟩ := split_of_mem_keptOf repeats member
    refine ⟨front, back, rfl, ((exactly front kept (back ++ item :: after) ?_).mp apart).1⟩
    rw [split, List.append_assoc, List.cons_append]
  · intro rooted before item after split
    constructor
    · intro apart
      constructor
      · intro earlier member again
        obtain ⟨first, isFirst, repeated⟩ :=
          rooted before item after split (.inl ⟨earlier, member, again⟩)
        exact apart first (isFirst.mem_keptOf repeats) repeated
      · intro also
        obtain ⟨first, isFirst, repeated⟩ := rooted before item after split (.inr also)
        exact apart first (isFirst.mem_keptOf repeats) repeated
    · rintro ⟨none, -⟩ kept member
      exact none kept (keptOf_subset repeats before member)

end

end Repeats

end CareerOS
