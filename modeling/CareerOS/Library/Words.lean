/-
This file is the words of a text that is put together from pieces: with a separator
between the pieces they are the words of the pieces, and without one they are that
exactly when no word of one piece runs into the next.
-/

import CareerOS.Library.TextScan

namespace CareerOS

namespace Text

variable {kind : Char → Bool}

/-! ### Runs of a text in two parts -/

variable {mark : Char}

/-- A run ends where a character of another kind stands. -/
theorem runsFrom_append_cons (other : kind mark = false) (run first second : List Char) :
    runsFrom kind run (first ++ mark :: second) = runsFrom kind run first ++ runs kind second := by
  induction first generalizing run with
  | nil =>
    have ends : runsFrom kind run (mark :: second) =
        if run = [] then runsFrom kind [] second else run :: runsFrom kind [] second := by
      rw [runsFrom, other]
      rfl
    rw [List.nil_append, ends, runsFrom]
    split <;> rfl
  | cons letter first inductionHypothesis =>
    rw [List.cons_append, runsFrom, runsFrom]
    split
    · exact inductionHypothesis _
    · split
      · exact inductionHypothesis _
      · rw [inductionHypothesis, List.cons_append]

theorem runs_nil : runs kind [] = [] := rfl

theorem runs_append_of_last (other : kind mark = false) (first second : List Char) :
    runs kind ((first ++ [mark]) ++ second) = runs kind (first ++ [mark]) ++ runs kind second := by
  have short := runsFrom_append_cons other [] first []
  rw [List.append_assoc, List.singleton_append]
  unfold runs at short ⊢
  rw [runsFrom_append_cons other, short]
  exact congrArg (· ++ _) (List.append_nil _).symm

theorem runs_append_of_head (other : kind mark = false) (first second : List Char) :
    runs kind (first ++ mark :: second) = runs kind first ++ runs kind (mark :: second) := by
  have short := runsFrom_append_cons other [] [] second
  unfold runs at short ⊢
  rw [runsFrom_append_cons other, ← List.nil_append (mark :: second), short]
  rfl

/-- Where a run starts, what was read of it before does not change the number of runs. -/
theorem length_runsFrom_cons {letter : Char} (same : kind letter = true) (run rest : List Char) :
    (runsFrom kind run (letter :: rest)).length = (runs kind (letter :: rest)).length := by
  have general (letters : List Char) : ∀ first second : List Char, first ≠ [] → second ≠ [] →
      (runsFrom kind first letters).length = (runsFrom kind second letters).length := by
    induction letters with
    | nil =>
      intro first second solid other
      rw [runsFrom, runsFrom, if_neg solid, if_neg other]
      rfl
    | cons next letters inductionHypothesis =>
      intro first second solid other
      rw [runsFrom, runsFrom]
      split
      · exact inductionHypothesis _ _ (List.append_ne_nil_of_right_ne_nil _ (List.cons_ne_nil _ _))
          (List.append_ne_nil_of_right_ne_nil _ (List.cons_ne_nil _ _))
      · rfl
  unfold runs
  rw [runsFrom, runsFrom, if_pos same, if_pos same]
  exact general rest _ _ (List.append_ne_nil_of_right_ne_nil _ (List.cons_ne_nil _ _))
    (List.append_ne_nil_of_right_ne_nil _ (List.cons_ne_nil _ _))

/-- A run that goes on is one run less. -/
theorem length_runs_append {last head : Char} (lastSame : kind last = true)
    (headSame : kind head = true) (first second : List Char) :
    (runs kind ((first ++ [last]) ++ head :: second)).length + 1 =
      (runs kind (first ++ [last])).length + (runs kind (head :: second)).length := by
  have general : ∀ run : List Char,
      (runsFrom kind run (first ++ last :: head :: second)).length + 1 =
        (runsFrom kind run (first ++ [last])).length + (runs kind (head :: second)).length := by
    induction first with
    | nil =>
      intro run
      rw [List.nil_append, List.nil_append, runsFrom, if_pos lastSame,
        length_runsFrom_cons headSame, runsFrom, if_pos lastSame, runsFrom,
        if_neg (List.append_ne_nil_of_right_ne_nil _ (List.cons_ne_nil _ _))]
      exact Nat.add_comm _ _
    | cons letter first inductionHypothesis =>
      intro run
      rw [List.cons_append, List.cons_append, runsFrom, runsFrom]
      split
      · exact inductionHypothesis _
      · split
        · exact inductionHypothesis _
        · rw [List.length_cons, List.length_cons, inductionHypothesis]
          omega
  rw [List.append_assoc, List.singleton_append]
  exact general []

/-! ### Pieces -/

/-- Something of another kind stands where two pieces meet. -/
def Apart (kind : Char → Bool) (first second : List Char) : Prop :=
  (∀ letter ∈ first.getLast?, kind letter = false) ∨ ∀ letter ∈ second.head?, kind letter = false

variable {first second : List Char}

theorem runs_append_of_apart (apart : Apart kind first second) :
    runs kind (first ++ second) = runs kind first ++ runs kind second := by
  rcases List.eq_nil_or_concat' first with rfl | ⟨front, last, rfl⟩
  · rfl
  rcases apart with other | other
  · exact runs_append_of_last (other last (by rw [List.getLast?_concat]; rfl)) front second
  · cases second with
    | nil => rw [List.append_nil, runs_nil, List.append_nil]
    | cons head rest => exact runs_append_of_head (other head rfl) _ rest

theorem length_runs_append_of_not_apart (joined : ¬Apart kind first second) :
    (runs kind (first ++ second)).length + 1 =
      (runs kind first).length + (runs kind second).length := by
  unfold Apart at joined
  push Not at joined
  obtain ⟨⟨last, atEnd, lastSame⟩, head, atStart, headSame⟩ := joined
  obtain ⟨front, rfl⟩ := List.getLast?_eq_some_iff.mp atEnd
  obtain ⟨rest, rfl⟩ := List.head?_eq_some_iff.mp atStart
  exact length_runs_append (Bool.eq_true_of_not_eq_false lastSame)
    (Bool.eq_true_of_not_eq_false headSame) front rest

/-- Pieces without an empty one have the words of their text among them, all of them exactly when
none runs into the next. -/
theorem length_runs_flatten {pieces : List (List Char)} (solid : ∀ piece ∈ pieces, piece ≠ []) :
    (runs kind pieces.flatten).length ≤ (pieces.flatMap (runs kind)).length ∧
      ((runs kind pieces.flatten).length = (pieces.flatMap (runs kind)).length ↔
        pieces.IsChain (Apart kind)) := by
  induction pieces with
  | nil => exact ⟨le_rfl, ⟨fun _ => .nil, fun _ => rfl⟩⟩
  | cons first rest inductionHypothesis =>
    obtain ⟨few, exact_⟩ := inductionHypothesis fun piece member =>
      solid piece (List.mem_cons_of_mem _ member)
    rw [List.flatten_cons, List.flatMap_cons, List.length_append]
    cases rest with
    | nil =>
      rw [List.flatten_nil, List.append_nil]
      exact ⟨Nat.le_add_right _ _, ⟨fun _ => .singleton _, fun _ => rfl⟩⟩
    | cons second rest =>
      have meets : Apart kind first (second :: rest).flatten ↔ Apart kind first second := by
        obtain ⟨letter, letters, split⟩ := List.exists_cons_of_ne_nil
          (solid second (List.mem_cons_of_mem _ List.mem_cons_self))
        rw [List.flatten_cons, split]
        exact Iff.rfl
      rw [List.isChain_cons_cons]
      by_cases apart : Apart kind first second
      · rw [runs_append_of_apart (meets.mpr apart), List.length_append]
        exact ⟨Nat.add_le_add_left few _, by
          rw [Nat.add_left_cancel_iff, exact_]
          exact ⟨fun chain => ⟨apart, chain⟩, fun both => both.2⟩⟩
      · have shorter := length_runs_append_of_not_apart (mt meets.mp apart)
        exact ⟨by omega, ⟨fun same => by omega, fun both => absurd both.1 apart⟩⟩

theorem runs_flatten_of_apart {pieces : List (List Char)} (solid : ∀ piece ∈ pieces, piece ≠ [])
    (apart : pieces.IsChain (Apart kind)) :
    runs kind pieces.flatten = pieces.flatMap (runs kind) := by
  induction pieces with
  | nil => rfl
  | cons first rest inductionHypothesis =>
    have later := inductionHypothesis (fun piece member =>
      solid piece (List.mem_cons_of_mem _ member)) apart.tail
    rw [List.flatten_cons, List.flatMap_cons, ← later]
    cases rest with
    | nil => rw [List.flatten_nil, List.append_nil, runs_nil, List.append_nil]
    | cons second rest =>
      refine runs_append_of_apart ?_
      obtain ⟨letter, letters, split⟩ := List.exists_cons_of_ne_nil
        (solid second (List.mem_cons_of_mem _ List.mem_cons_self))
      have meets := (List.isChain_cons_cons.mp apart).1
      rw [List.flatten_cons, split] at *
      exact meets

/-- The words of pieces in any order are the words of their text when no word runs into the next
and the words come in the same order. -/
theorem runs_flatten_eq_iff {pieces others : List (List Char)}
    (solid : ∀ piece ∈ pieces, piece ≠ []) (same : others.Perm pieces) :
    others.flatMap (runs kind) = runs kind pieces.flatten ↔
      pieces.IsChain (Apart kind) ∧
        others.flatMap (runs kind) = pieces.flatMap (runs kind) := by
  have iff := (@length_runs_flatten kind pieces solid).2
  constructor
  · intro equal
    have apart := iff.mp (by rw [← equal, (same.flatMap_right _).length_eq])
    exact ⟨apart, by rw [equal, runs_flatten_of_apart solid apart]⟩
  · rintro ⟨apart, equal⟩
    rw [equal, runs_flatten_of_apart solid apart]

/-! ### Words with spaces between them -/

theorem runs_intercalate (other : kind mark = false) (pieces : List (List Char)) :
    runs kind ([mark].intercalate pieces) = pieces.flatMap (runs kind) := by
  induction pieces with
  | nil => rfl
  | cons first rest inductionHypothesis =>
    rw [List.flatMap_cons, ← inductionHypothesis]
    cases rest with
    | nil => rw [List.intercalate_singleton]; exact (List.append_nil _).symm
    | cons second rest =>
      rw [List.intercalate_cons_cons, List.append_assoc, List.singleton_append]
      exact runsFrom_append_cons other [] first _

theorem runs_of_mem_runsFrom {run letters word : List Char}
    (read : ∀ letter ∈ run, kind letter = true) (member : word ∈ runsFrom kind run letters) :
    word ≠ [] ∧ ∀ letter ∈ word, kind letter = true := by
  induction letters generalizing run with
  | nil =>
    rw [runsFrom] at member
    split at member
    · cases member
    · next solid =>
      obtain rfl := List.mem_singleton.mp member
      exact ⟨solid, read⟩
  | cons letter rest inductionHypothesis =>
    rw [runsFrom] at member
    split at member
    · next same =>
      refine inductionHypothesis (fun other inside => ?_) member
      rcases List.mem_append.mp inside with before | here
      · exact read other before
      · rwa [List.mem_singleton.mp here]
    · split at member
      · exact inductionHypothesis (List.forall_mem_nil _) member
      · next solid =>
        rcases List.mem_cons.mp member with rfl | later
        · exact ⟨solid, read⟩
        · exact inductionHypothesis (List.forall_mem_nil _) later

theorem runs_word {word : List Char} (solid : word ≠ [])
    (same : ∀ letter ∈ word, kind letter = true) : runs kind word = [word] := by
  have general (letters : List Char) (all : ∀ letter ∈ letters, kind letter = true) :
      ∀ run : List Char, run ++ letters ≠ [] → runsFrom kind run letters = [run ++ letters] := by
    induction letters with
    | nil =>
      intro run nonempty
      rw [List.append_nil] at nonempty ⊢
      rw [runsFrom, if_neg nonempty]
    | cons letter rest inductionHypothesis =>
      intro run _
      obtain ⟨here, later⟩ := List.forall_mem_cons.mp all
      rw [runsFrom, if_pos here, inductionHypothesis later _ (by simp), List.append_assoc,
        List.singleton_append]
  exact general word same [] solid

/-- Splitting what `joinWords` makes gives the words again. -/
theorem runs_joinWords (letters : List Char) :
    runs (fun letter => !isSpace letter) (joinWords letters) =
      runs (fun letter => !isSpace letter) letters := by
  show runs _ ([' '].intercalate (runs _ letters)) = _
  rw [runs_intercalate (by decide)]
  refine (List.flatMap_congr fun word member => ?_).trans (List.flatMap_singleton' _)
  obtain ⟨solid, same⟩ := runs_of_mem_runsFrom (List.forall_mem_nil _) member
  exact runs_word solid same

/-- Two texts look the same with single spaces when they have the same words. -/
theorem joinWords_eq_iff : joinWords first = joinWords second ↔
    runs (fun letter => !isSpace letter) first = runs (fun letter => !isSpace letter) second := by
  constructor
  · intro same
    rw [← runs_joinWords first, same, runs_joinWords]
  · intro same
    unfold joinWords
    rw [same]

end Text

end CareerOS
