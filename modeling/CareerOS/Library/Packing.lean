/-
This file is the greedy packing of a list into chunks, under a limit on the number of
entries of a chunk and a budget for their sizes. The loop holds the chunks that are
closed and the one that is open; an entry that would take the open chunk over a limit
closes it. An entry that is too large by itself gets a chunk of its own.

What the loop keeps is stated once, for the chunks that would be returned if the list
ended here: they are a packing of the entries seen so far.
-/

import Mathlib

namespace CareerOS

namespace Packing

variable {Entry : Type}

/-- The limits of a chunk, and the size of an entry. -/
structure Limits (Entry : Type) where
  maxItems : Nat
  budget : Nat
  size : Entry → Nat

/-- The size of a chunk. -/
def Limits.total (limits : Limits Entry) (chunk : List Entry) : Nat :=
  (chunk.map limits.size).sum

/-- Would the entry take the chunk over a limit? -/
def Limits.Exceeded (limits : Limits Entry) (chunk : List Entry) (entry : Entry) : Prop :=
  limits.maxItems < chunk.length + 1 ∨ limits.budget < limits.total chunk + limits.size entry

/-- The loop: the closed chunks, the open one and its size. -/
structure State (Entry : Type) where
  packed : List (List Entry)
  current : List Entry
  currentChars : Nat

/-- The loop before its first entry. -/
def State.start : State Entry := ⟨[], [], 0⟩

/-- One turn of the loop. -/
def packOne (limits : Limits Entry) (state : State Entry) (entry : Entry) : State Entry :=
  let entryChars := limits.size entry
  if state.current ≠ [] ∧ (limits.maxItems ≤ state.current.length ∨
      limits.budget < state.currentChars + entryChars) then
    ⟨state.packed ++ [state.current], [entry], entryChars⟩
  else ⟨state.packed, state.current ++ [entry], state.currentChars + entryChars⟩

/-- The chunks at the end of the loop. -/
def State.close (state : State Entry) : List (List Entry) :=
  if state.current = [] then state.packed else state.packed ++ [state.current]

/-- The chunks of a list. -/
def pack (limits : Limits Entry) (entries : List Entry) : List (List Entry) :=
  (entries.foldl (packOne limits) .start).close

/-! ### What a packing is -/

/-- A chunk within the limits; one entry alone may be larger than the budget. -/
structure Fits (limits : Limits Entry) (chunk : List Entry) : Prop where
  nonempty : chunk ≠ []
  short : chunk.length ≤ limits.maxItems
  within : limits.total chunk ≤ limits.budget ∨
    ∃ entry, chunk = [entry] ∧ limits.budget < limits.size entry

/-- The chunk is closed by the first entry of the next one. -/
def ClosedBy (limits : Limits Entry) (chunk next : List Entry) : Prop :=
  ∃ entry rest, next = entry :: rest ∧ limits.Exceeded chunk entry

/-- The chunks hold the entries in their order, and none could be longer. -/
structure IsPacking (limits : Limits Entry) (entries : List Entry) (chunks : List (List Entry)) :
    Prop where
  whole : chunks.flatten = entries
  fits : ∀ chunk ∈ chunks, Fits limits chunk
  closed : chunks.IsChain (ClosedBy limits)

/-! ### The loop -/

/-- The loop has packed what it has seen. -/
structure Packs (limits : Limits Entry) (seen : List Entry) (state : State Entry) : Prop where
  packing : IsPacking limits seen state.close
  chars : state.currentChars = limits.total state.current
  opened : state.current = [] → state.packed = []

theorem total_append (limits : Limits Entry) (chunk : List Entry) (entry : Entry) :
    limits.total (chunk ++ [entry]) = limits.total chunk + limits.size entry := by
  simp [Limits.total]

theorem packs_start (limits : Limits Entry) : Packs limits [] State.start where
  packing := ⟨rfl, fun _ member => absurd member List.not_mem_nil, List.isChain_nil⟩
  chars := rfl
  opened _ := rfl

theorem fits_single (limits : Limits Entry) (positive : 0 < limits.maxItems) (entry : Entry) :
    Fits limits [entry] where
  nonempty := List.cons_ne_nil _ _
  short := positive
  within := by
    rcases le_or_gt (limits.size entry) limits.budget with small | large
    · exact .inl (by simpa [Limits.total] using small)
    · exact .inr ⟨entry, rfl, large⟩

variable {limits : Limits Entry}

theorem closedBy_append {chunk next : List Entry} (entry : Entry)
    (closed : ClosedBy limits chunk next) : ClosedBy limits chunk (next ++ [entry]) := by
  obtain ⟨first, rest, rfl, exceeded⟩ := closed
  exact ⟨first, rest ++ [entry], rfl, exceeded⟩

variable {seen : List Entry}

/-- The entry that closes a chunk opens the next one. -/
theorem isPacking_close {packed : List (List Entry)}
    {current : List Entry} {entry : Entry} (positive : 0 < limits.maxItems)
    (packing : IsPacking limits seen (packed ++ [current]))
    (exceeded : limits.Exceeded current entry) :
    IsPacking limits (seen ++ [entry]) (packed ++ [current] ++ [[entry]]) where
  whole := by rw [List.flatten_append, packing.whole]; rfl
  fits := by
    intro chunk member
    rcases List.mem_append.mp member with before | last
    · exact packing.fits chunk before
    · rw [List.mem_singleton.mp last]
      exact fits_single limits positive entry
  closed := by
    refine List.isChain_append.mpr ⟨packing.closed, List.isChain_singleton _, ?_⟩
    intro last isLast next isNext
    rw [List.getLast?_concat, Option.mem_some_iff] at isLast
    rw [List.head?_cons, Option.mem_some_iff] at isNext
    subst isLast isNext
    exact ⟨entry, [], rfl, exceeded⟩

/-- An entry that fits is added to the open chunk. -/
theorem isPacking_extend {packed : List (List Entry)}
    {current : List Entry} {entry : Entry} (nonempty : current ≠ [])
    (packing : IsPacking limits seen (packed ++ [current]))
    (fits : ¬limits.Exceeded current entry) :
    IsPacking limits (seen ++ [entry]) (packed ++ [current ++ [entry]]) where
  whole := by
    rw [← packing.whole]
    simp only [List.flatten_append, List.flatten_singleton, List.append_assoc]
  fits := by
    intro chunk member
    rcases List.mem_append.mp member with before | last
    · exact packing.fits chunk (List.mem_append_left _ before)
    · rw [List.mem_singleton.mp last]
      simp only [Limits.Exceeded, not_or, not_lt] at fits
      refine ⟨List.append_ne_nil_of_left_ne_nil nonempty _, ?_, .inl ?_⟩
      · rw [List.length_append]
        exact fits.1
      · rw [total_append]
        exact fits.2
  closed := by
    obtain ⟨before, -, linked⟩ := List.isChain_append.mp packing.closed
    refine List.isChain_append.mpr ⟨before, List.isChain_singleton _, ?_⟩
    intro last isLast next isNext
    rw [List.head?_cons, Option.mem_some_iff] at isNext
    subst isNext
    exact closedBy_append entry (linked last isLast current rfl)

/-- One turn of the loop packs one more entry. -/
theorem packs_packOne {state : State Entry}
    (positive : 0 < limits.maxItems) (packs : Packs limits seen state) (entry : Entry) :
    Packs limits (seen ++ [entry]) (packOne limits state entry) := by
  obtain ⟨packed, current, currentChars⟩ := state
  obtain ⟨packing, chars, opened⟩ := packs
  dsimp only at chars opened
  by_cases empty : current = []
  · -- the first entry of all
    subst empty
    obtain rfl := opened rfl
    have first : seen = [] := packing.whole.symm
    subst first chars
    refine ⟨⟨rfl, ?_, List.isChain_singleton _⟩, ?_, fun impossible => ?_⟩
    · intro chunk member
      rw [List.mem_singleton.mp member]
      exact fits_single limits positive entry
    · simp [packOne, Limits.total]
    · simp [packOne] at impossible
  · have shape : State.close ⟨packed, current, currentChars⟩ = packed ++ [current] :=
      if_neg empty
    rw [shape] at packing
    unfold packOne
    dsimp only
    by_cases exceeded : limits.Exceeded current entry
    · have flushed : current ≠ [] ∧ (limits.maxItems ≤ current.length ∨
          limits.budget < currentChars + limits.size entry) := by
        refine ⟨empty, ?_⟩
        rw [chars]
        exact exceeded.imp Nat.le_of_lt_succ id
      rw [if_pos flushed]
      refine ⟨isPacking_close positive packing exceeded, ?_, fun impossible => ?_⟩
      · simp [Limits.total]
      · exact absurd impossible (List.cons_ne_nil _ _)
    · have kept : ¬(current ≠ [] ∧ (limits.maxItems ≤ current.length ∨
          limits.budget < currentChars + limits.size entry)) := by
        rw [chars]
        exact fun both => exceeded (both.2.imp Nat.lt_succ_of_le id)
      rw [if_neg kept]
      have grown : current ++ [entry] ≠ [] := List.append_ne_nil_of_left_ne_nil empty _
      refine ⟨?_, ?_, fun impossible => absurd impossible grown⟩
      · unfold State.close
        rw [if_neg grown]
        exact isPacking_extend empty packing exceeded
      · dsimp only
        rw [chars, total_append]

/-- The loop packs every list. -/
theorem isPacking_pack (positive : 0 < limits.maxItems)
    (entries : List Entry) : IsPacking limits entries (pack limits entries) := by
  have packs : Packs limits entries (entries.foldl (packOne limits) .start) := by
    induction entries using List.reverseRecOn with
    | nil => exact packs_start limits
    | append_singleton seen entry inductionHypothesis =>
      rw [List.foldl_append]
      exact packs_packOne positive inductionHypothesis entry
  exact packs.packing

end Packing

end CareerOS
