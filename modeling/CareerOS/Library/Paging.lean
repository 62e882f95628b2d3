/-
This file is the reader of a source that is served in pages. It asks for one page
after another, keeps the items, and stops at a page that it takes for the last one
or that is not served. Whatever the rule for the last page is, the reading ends at
the first page that it holds of, and is complete exactly when no later page has
items; that is what a rule has to be checked for.
-/

import Mathlib

namespace CareerOS

namespace Paging

universe u

variable {Item Reply Fault : Type u}

/-- What a reader has when it ends: the items, the fault of the page that was not served, the
pages it asked for, and whether it ended at all. -/
structure Reading (Item Fault : Type u) where
  taken : List Item
  fault : Option Fault
  requested : List Nat
  ended : Bool

section

variable (page : Nat → Except Fault Reply) (items : Reply → List Item)
variable (stops : Nat → Reply → List Item → Bool)

/-- Reads from a page on, with the items taken so far, at most so many pages. -/
def read : Nat → Nat → List Item → Reading Item Fault
  | 0, _, taken => ⟨taken, none, [], false⟩
  | fuel + 1, current, taken =>
    match page current with
    | .error fault => ⟨taken, some fault, [current], true⟩
    | .ok reply =>
      let all := taken ++ items reply
      if stops current reply all then ⟨all, none, [current], true⟩
      else
        let rest := read fuel (current + 1) all
        { rest with requested := current :: rest.requested }

/-- The items of a page; a page that is not served has none. -/
def itemsAt (number : Nat) : List Item :=
  match page number with
  | .ok reply => items reply
  | .error _ => []

/-- The items of the first pages. -/
def upTo (count : Nat) : List Item := (List.range count).flatMap (itemsAt page items)

/-- The fault of a page. -/
def faultAt (number : Nat) : Option Fault :=
  match page number with
  | .ok _ => none
  | .error fault => some fault

/-- A page after which the reader goes on. -/
def Passes (number : Nat) : Prop :=
  ∃ reply, page number = .ok reply ∧ stops number reply (upTo page items (number + 1)) = false

variable {page items stops}

theorem upTo_succ (count : Nat) :
    upTo page items (count + 1) = upTo page items count ++ itemsAt page items count := by
  unfold upTo
  rw [List.range_succ, List.flatMap_append, List.flatMap_singleton]

/-- The items of more pages than that. -/
theorem upTo_add (count more : Nat) : upTo page items (count + more) =
    upTo page items count ++
      (List.range more).flatMap fun number => itemsAt page items (count + number) := by
  unfold upTo
  rw [List.range_add, List.flatMap_append, List.flatMap_map]

/-- Pages without items add nothing, and only they do. -/
theorem upTo_eq_iff {count whole : Nat} (within : count ≤ whole) :
    upTo page items count = upTo page items whole ↔
      ∀ number, count ≤ number → number < whole → itemsAt page items number = [] := by
  obtain ⟨more, rfl⟩ := Nat.exists_eq_add_of_le within
  rw [upTo_add, eq_comm, List.append_right_eq_self, List.flatMap_eq_nil_iff]
  constructor
  · intro empty number least most
    obtain ⟨rest, rfl⟩ := Nat.exists_eq_add_of_le least
    exact empty rest (List.mem_range.mpr (Nat.add_lt_add_iff_left.mp most))
  · intro empty number member
    exact empty _ (Nat.le_add_right _ _) (Nat.add_lt_add_left (List.mem_range.mp member) count)

/-- From a page on, the reader takes the pages up to the first that it does not pass. -/
theorem read_from {last : Nat} (ends : ¬Passes page items stops last) :
    ∀ (distance first : Nat), first + distance = last →
      (∀ number, first ≤ number → number < last → Passes page items stops number) →
      ∀ fuel, distance < fuel →
        read page items stops fuel first (upTo page items first) =
          ⟨upTo page items (last + 1), faultAt page last, List.range' first (distance + 1), true⟩ := by
  intro distance
  induction distance with
  | zero =>
    intro first here passes fuel enough
    obtain rfl : first = last := here
    obtain ⟨fuel, rfl⟩ := Nat.exists_eq_succ_of_ne_zero (Nat.ne_of_gt enough)
    unfold read faultAt
    cases served : page first with
    | error fault =>
      have nothing : upTo page items (first + 1) = upTo page items first := by
        rw [upTo_succ]
        unfold itemsAt
        rw [served, List.append_nil]
      rw [nothing]
      rfl
    | ok reply =>
      have more : upTo page items (first + 1) = upTo page items first ++ items reply := by
        rw [upTo_succ]
        unfold itemsAt
        rw [served]
      have stop : stops first reply (upTo page items first ++ items reply) = true := by
        rw [← more]
        by_contra goes
        exact ends ⟨reply, served, Bool.eq_false_iff.mpr goes⟩
      dsimp only
      rw [if_pos stop, more]
      rfl
  | succ distance inductionHypothesis =>
    intro first here passes fuel enough
    obtain ⟨fuel, rfl⟩ := Nat.exists_eq_succ_of_ne_zero (Nat.ne_of_gt (Nat.zero_lt_of_lt enough))
    have before : first < last := by omega
    obtain ⟨reply, served, goes⟩ := passes first (Nat.le_refl first) before
    have more : upTo page items first ++ items reply = upTo page items (first + 1) := by
      rw [upTo_succ]
      unfold itemsAt
      rw [served]
    have later := inductionHypothesis (first + 1) (by omega)
      (fun number least most => passes number (Nat.le_of_succ_le least) most) fuel
      (Nat.lt_of_succ_lt_succ enough)
    unfold read
    rw [served]
    dsimp only
    rw [more, if_neg (by rw [goes]; decide), later]
    rfl

/-- The reader ends at the first page that it does not pass. -/
theorem read_first {bound : Nat} (ends : ¬Passes page items stops bound) :
    ∃ last ≤ bound, ¬Passes page items stops last ∧
      (∀ number < last, Passes page items stops number) ∧
      ∀ fuel, last < fuel → read page items stops fuel 0 [] =
        ⟨upTo page items (last + 1), faultAt page last, List.range (last + 1), true⟩ := by
  classical
  have found : ∃ number, ¬Passes page items stops number := ⟨bound, ends⟩
  have passes : ∀ number < Nat.find found, Passes page items stops number :=
    fun number before => not_not.mp (Nat.find_min found before)
  refine ⟨Nat.find found, Nat.find_min' found ends, Nat.find_spec found, passes, ?_⟩
  intro fuel enough
  rw [List.range_eq_range']
  exact read_from (Nat.find_spec found) (Nat.find found) 0 (Nat.zero_add _)
    (fun number _ before => passes number before) fuel enough

end

/-! ### Complete readings -/

section

variable {page : Nat → Except Fault Reply} {items : Reply → List Item}
variable {stops : Nat → Reply → List Item → Bool}

/-- A page that is not served. -/
def Fails (page : Nat → Except Fault Reply) (number : Nat) : Prop := ∃ fault, page number = .error fault

theorem faultAt_isSome_iff {number : Nat} : (faultAt page number).isSome ↔ Fails page number := by
  unfold faultAt Fails
  cases page number with
  | ok reply => exact ⟨nofun, fun ⟨_, impossible⟩ => nomatch impossible⟩
  | error fault => exact ⟨fun _ => ⟨fault, rfl⟩, fun _ => rfl⟩

/-- What the rule of the reader comes to: on a page that it reaches and that is served, it holds
exactly where the page is a last one. -/
def Rules (page : Nat → Except Fault Reply) (items : Reply → List Item)
    (stops : Nat → Reply → List Item → Bool) (bound : Nat) (isLast : Nat → Prop) : Prop :=
  ∀ number ≤ bound, (∀ earlier < number, Passes page items stops earlier) →
    ∀ reply, page number = .ok reply →
      (stops number reply (upTo page items (number + 1)) = true ↔ isLast number)

/-- A page that the rule holds of, if it is served. -/
def StopsAt (page : Nat → Except Fault Reply) (items : Reply → List Item)
    (stops : Nat → Reply → List Item → Bool) (number : Nat) : Prop :=
  ∀ reply, page number = .ok reply → stops number reply (upTo page items (number + 1)) = true

/-- Any rule comes to itself. -/
theorem rules_stopsAt (bound : Nat) :
    Rules page items stops bound (StopsAt page items stops) := by
  intro number _ _ reply served
  refine ⟨fun stop other isOther => ?_, fun all => all reply served⟩
  rw [← Except.ok.inj (served.symm.trans isOther)]
  exact stop

variable {bound : Nat} {isLast : Nat → Prop}

/-- A page that is reached is passed where it is served and no last one. -/
theorem passes_iff (rules : Rules page items stops bound isLast) {number : Nat}
    (within : number ≤ bound) (reached : ∀ earlier < number, Passes page items stops earlier) :
    Passes page items stops number ↔ ¬(Fails page number ∨ isLast number) := by
  constructor
  · rintro ⟨reply, served, goes⟩ (⟨fault, failed⟩ | last)
    · cases served.symm.trans failed
    · rw [(rules number within reached reply served).mpr last] at goes
      cases goes
  · intro neither
    cases served : page number with
    | error fault => exact absurd (Or.inl ⟨fault, served⟩) neither
    | ok reply =>
      refine ⟨reply, served, Bool.eq_false_iff.mpr fun stop => neither (Or.inr ?_)⟩
      exact (rules number within reached reply served).mp stop

/-- The reader ends at the first page that fails or is a last one. -/
theorem read_spec (rules : Rules page items stops bound isLast)
    (ends : Fails page bound ∨ isLast bound) : ∃ last ≤ bound, (Fails page last ∨ isLast last) ∧
      (∀ number < last, ¬(Fails page number ∨ isLast number)) ∧
      ∀ fuel, bound < fuel → read page items stops fuel 0 [] =
        ⟨upTo page items (last + 1), faultAt page last, List.range (last + 1), true⟩ := by
  have some : ∃ number ≤ bound, ¬Passes page items stops number := by
    by_contra none
    have all : ∀ number ≤ bound, Passes page items stops number :=
      fun number within => by_contra fun stuck => none ⟨number, within, stuck⟩
    exact (passes_iff rules (Nat.le_refl bound) fun earlier before =>
      all earlier (Nat.le_of_lt before)).mp (all bound (Nat.le_refl bound)) ends
  obtain ⟨number, within, stuck⟩ := some
  obtain ⟨last, least, lastStuck, passes, whole⟩ := read_first stuck
  have inside := least.trans within
  refine ⟨last, inside, ?_, fun earlier before => ?_, fun fuel enough =>
    whole fuel (Nat.lt_of_le_of_lt inside enough)⟩
  · exact not_not.mp fun neither => lastStuck ((passes_iff rules inside passes).mpr neither)
  · exact (passes_iff rules (Nat.le_of_lt before |>.trans inside) fun other earliest =>
      passes other (earliest.trans before)).mp (passes earlier before)

/-- A reading of pages that are all served is complete exactly when no page after a last one has
items. -/
theorem complete_iff (rules : Rules page items stops bound isLast)
    (ends : Fails page bound ∨ isLast bound) {fuel : Nat} (enough : bound < fuel)
    (served : ∀ number ≤ bound, ¬Fails page number) :
    (read page items stops fuel 0 []).taken = upTo page items (bound + 1) ↔
      ∀ earlier later, earlier < later → later ≤ bound → isLast earlier →
        itemsAt page items later = [] := by
  obtain ⟨last, inside, isEnd, goes, whole⟩ := read_spec rules ends
  rw [whole fuel enough]
  refine (upTo_eq_iff (Nat.succ_le_succ inside)).trans ⟨fun empty earlier later before within rule => ?_,
    fun empty number after within => ?_⟩
  · have reached : last ≤ earlier := by
      by_contra sooner
      exact goes earlier (Nat.lt_of_not_le sooner) (Or.inr rule)
    exact empty later (Nat.succ_le_of_lt (Nat.lt_of_le_of_lt reached before))
      (Nat.lt_succ_of_le within)
  · have rule : isLast last := isEnd.resolve_left (served last inside)
    exact empty last number (Nat.lt_of_succ_le after) (Nat.le_of_lt_succ within) rule

/-- A reading meets a page that is not served exactly when that page comes before any last one. -/
theorem fault_iff (rules : Rules page items stops bound isLast)
    (ends : Fails page bound ∨ isLast bound) {fuel : Nat} (enough : bound < fuel) :
    (read page items stops fuel 0 []).fault.isSome ↔ ∃ number ≤ bound, Fails page number ∧
      ∀ earlier < number, ¬(Fails page earlier ∨ isLast earlier) := by
  obtain ⟨last, inside, isEnd, goes, whole⟩ := read_spec rules ends
  rw [whole fuel enough]
  refine faultAt_isSome_iff.trans ⟨fun failed => ⟨last, inside, failed, goes⟩, ?_⟩
  rintro ⟨number, within, failed, reached⟩
  rcases Nat.lt_trichotomy number last with before | rfl | after
  · exact absurd (Or.inl failed) (goes number before)
  · exact failed
  · exact absurd isEnd (reached last after)

/-- What is taken before a fault is nothing, exactly when no page after the first fails before a
last one; a page without items being a last one. -/
theorem lost_iff (rules : Rules page items stops bound isLast)
    (ends : Fails page bound ∨ isLast bound) {fuel : Nat} (enough : bound < fuel)
    (solid : ∀ number, ¬Fails page number → itemsAt page items number = [] → isLast number) :
    ((read page items stops fuel 0 []).fault.isSome →
        (read page items stops fuel 0 []).taken = []) ↔
      ∀ number, 0 < number → number ≤ bound → Fails page number →
        ∃ earlier < number, Fails page earlier ∨ isLast earlier := by
  obtain ⟨last, inside, isEnd, goes, whole⟩ := read_spec rules ends
  rw [whole fuel enough]
  dsimp only
  rw [faultAt_isSome_iff]
  constructor
  · intro empty number positive within failed
    by_contra none
    have reached : ∀ earlier < number, ¬(Fails page earlier ∨ isLast earlier) :=
      fun earlier before isEnd => none ⟨earlier, before, isEnd⟩
    obtain rfl : number = last := by
      rcases Nat.lt_trichotomy number last with before | same | after
      · exact absurd (Or.inl failed) (goes number before)
      · exact same
      · exact absurd isEnd (reached last after)
    -- The page before it has items, for it is no last one.
    obtain ⟨before, rfl⟩ := Nat.exists_eq_succ_of_ne_zero (Nat.ne_of_gt positive)
    have neither := reached before (Nat.lt_succ_self before)
    have nothing := List.flatMap_eq_nil_iff.mp (empty failed) before
      (List.mem_range.mpr (Nat.lt_succ_of_lt (Nat.lt_succ_self before)))
    exact neither (Or.inr (solid before (fun fails => neither (Or.inl fails)) nothing))
  · intro early failed
    have first : last = 0 := by
      by_contra later
      obtain ⟨earlier, before, isEarlier⟩ := early last (Nat.pos_of_ne_zero later) inside failed
      exact goes earlier before isEarlier
    obtain ⟨fault, refused⟩ := failed
    subst first
    unfold upTo itemsAt
    simp only [Nat.zero_add, List.range_one, List.flatMap_singleton, refused]

/-- A reading ends, asks for each page once, and asks for no page after the bound. -/
theorem read_requested (rules : Rules page items stops bound isLast)
    (ends : Fails page bound ∨ isLast bound) {fuel : Nat} (enough : bound < fuel) :
    (read page items stops fuel 0 []).ended = true ∧
      (read page items stops fuel 0 []).requested.Nodup ∧
      (read page items stops fuel 0 []).requested.length ≤ bound + 1 := by
  obtain ⟨last, inside, -, -, whole⟩ := read_spec rules ends
  rw [whole fuel enough]
  refine ⟨rfl, List.nodup_range, ?_⟩
  rw [List.length_range]
  exact Nat.succ_le_succ inside

end

end Paging

end CareerOS
