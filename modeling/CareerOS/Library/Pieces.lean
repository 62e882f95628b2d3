/-
This file is a text that a scan has cut into pieces: those it keeps, and those it
replaces by a marker. What a word without brackets says about the printed text
it says about the kept pieces, so nothing is read into a text by replacing parts
of it.
-/

import Mathlib

namespace CareerOS

/-- A piece of a text. -/
inductive Piece
  | kept (letters : List Char)
  | replaced (letters : List Char)
  deriving DecidableEq, Repr

namespace Piece

/-- The letters of a piece. -/
def source : Piece → List Char
  | .kept letters => letters
  | .replaced letters => letters

/-- What is printed for a piece. -/
def printed (marker : List Char) : Piece → List Char
  | .kept letters => letters
  | .replaced _ => marker

/-- The text that was cut. -/
def sources (pieces : List Piece) : List Char := pieces.flatMap source

/-- The text that is printed. -/
def render (marker : List Char) (pieces : List Piece) : List Char :=
  pieces.flatMap (printed marker)

/-- What is kept before the first piece that is replaced. -/
def leading : List Piece → List Char
  | .kept letters :: rest => letters ++ leading rest
  | _ => []

@[simp] theorem sources_nil : sources [] = [] := rfl

@[simp] theorem sources_cons (piece : Piece) (pieces : List Piece) :
    sources (piece :: pieces) = piece.source ++ sources pieces := rfl

@[simp] theorem sources_append (first second : List Piece) :
    sources (first ++ second) = sources first ++ sources second := List.flatMap_append

@[simp] theorem render_nil (marker : List Char) : render marker [] = [] := rfl

@[simp] theorem render_cons (marker : List Char) (piece : Piece) (pieces : List Piece) :
    render marker (piece :: pieces) = piece.printed marker ++ render marker pieces := rfl

@[simp] theorem render_append (marker : List Char) (first second : List Piece) :
    render marker (first ++ second) = render marker first ++ render marker second :=
  List.flatMap_append

/-! ### A marker in brackets -/

section

variable {marker : List Char}

/-- A marker is written in brackets. -/
def Bracketed (marker : List Char) : Prop := ∃ inner, marker = '[' :: (inner ++ [']'])

/-- A word without brackets. -/
def Bare (word : List Char) : Prop := '[' ∉ word ∧ ']' ∉ word

theorem Bare.of_append_right {first second : List Char} (bare : Bare (first ++ second)) :
    Bare second :=
  ⟨fun member => bare.1 (List.mem_append_right _ member),
    fun member => bare.2 (List.mem_append_right _ member)⟩

/-- What the printed text begins with is kept. -/
theorem leading_of_prefix_render (bracketed : Bracketed marker) {word : List Char}
    (bare : Bare word) (pieces : List Piece) (printed : word <+: render marker pieces) :
    word <+: leading pieces := by
  induction pieces generalizing word with
  | nil => exact printed
  | cons piece pieces inductionHypothesis =>
    obtain ⟨rest, same⟩ := printed
    cases piece with
    | kept letters =>
      rcases List.append_eq_append_iff.mp same with ⟨left, rfl, -⟩ | ⟨right, rfl, inside⟩
      · exact List.prefix_append_of_prefix (List.prefix_append _ _)
      · exact (List.prefix_append_right_inj letters).mpr
          (inductionHypothesis bare.of_append_right ⟨rest, inside.symm⟩)
    | replaced letters =>
      obtain ⟨inner, rfl⟩ := bracketed
      cases word with
      | nil => exact List.nil_prefix
      | cons first word =>
        obtain ⟨rfl, -⟩ := List.cons.inj same
        exact absurd List.mem_cons_self bare.1

/-- What is printed after the leading text begins with a bracket, if there is anything. -/
theorem render_eq_leading (bracketed : Bracketed marker) (pieces : List Piece) :
    ∃ rest, render marker pieces = leading pieces ++ rest ∧
      (rest = [] ∨ ∃ after, rest = '[' :: after) := by
  induction pieces with
  | nil => exact ⟨[], rfl, .inl rfl⟩
  | cons piece pieces inductionHypothesis =>
    cases piece with
    | kept letters =>
      obtain ⟨rest, same, starts⟩ := inductionHypothesis
      exact ⟨rest, by rw [render_cons, same]; exact (List.append_assoc _ _ _).symm, starts⟩
    | replaced letters =>
      obtain ⟨inner, rfl⟩ := bracketed
      exact ⟨_, rfl, .inr ⟨_, rfl⟩⟩

theorem leading_prefix_sources (pieces : List Piece) : leading pieces <+: sources pieces := by
  induction pieces with
  | nil => exact List.nil_prefix
  | cons piece pieces inductionHypothesis =>
    cases piece with
    | kept letters => exact (List.prefix_append_right_inj letters).mpr inductionHypothesis
    | replaced letters => exact List.nil_prefix

/-- The last letter of the printed text is kept, unless it is a bracket. -/
theorem last_of_render (bracketed : Bracketed marker) {letter : Char} (bare : letter ≠ ']')
    (pieces : List Piece) {front : List Char} (printed : render marker pieces = front ++ [letter]) :
    ∃ first, sources pieces = first ++ [letter] := by
  induction pieces using List.reverseRecOn generalizing front with
  | nil => exact absurd printed.symm (by simp)
  | append_singleton pieces piece inductionHypothesis =>
    rw [render_append, render_cons, render_nil, List.append_nil] at printed
    rw [sources_append, sources_cons, sources_nil, List.append_nil]
    cases piece with
    | kept letters =>
      cases letters using List.reverseRecOn with
      | nil =>
        have before : render marker pieces = front ++ [letter] := by
          simpa [Piece.printed] using printed
        obtain ⟨first, same⟩ := inductionHypothesis before
        exact ⟨first, by rw [same]; exact List.append_nil _⟩
      | append_singleton letters last =>
        have same : last = letter := by
          have ends := congrArg List.getLast? printed
          simpa [Piece.printed] using ends
        exact ⟨sources pieces ++ letters, by rw [← same]; exact (List.append_assoc _ _ _).symm⟩
    | replaced letters =>
      obtain ⟨inner, rfl⟩ := bracketed
      have same : ']' = letter := by
        have ends := congrArg List.getLast? printed
        simpa [Piece.printed, List.getLast?_cons] using ends
      exact absurd same.symm bare

/-- A letter of the printed text that the marker does not have is in a kept piece. -/
theorem locate {letter : Char} (absent : letter ∉ marker) (pieces : List Piece)
    {front back : List Char} (printed : render marker pieces = front ++ letter :: back) :
    ∃ before left right after, pieces = before ++ .kept (left ++ letter :: right) :: after ∧
      front = render marker before ++ left ∧ back = right ++ render marker after := by
  induction pieces generalizing front with
  | nil => exact absurd printed.symm (by simp)
  | cons piece pieces inductionHypothesis =>
    have later : ∀ front', front = piece.printed marker ++ front' →
        render marker pieces = front' ++ letter :: back →
        ∃ before left right after, piece :: pieces =
            before ++ .kept (left ++ letter :: right) :: after ∧
          front = render marker before ++ left ∧ back = right ++ render marker after := by
      intro front' same rest
      obtain ⟨before, left, right, after, rfl, rfl, rfl⟩ := inductionHypothesis rest
      exact ⟨piece :: before, left, right, after, rfl,
        by rw [same, render_cons, List.append_assoc], rfl⟩
    rw [render_cons] at printed
    rcases List.append_eq_append_iff.mp printed with ⟨front', same, rest⟩ | ⟨left, same, rest⟩
    · exact later front' same rest
    · cases left with
      | nil =>
        rw [List.append_nil] at same
        exact later [] (by rw [same, List.append_nil]) rest.symm
      | cons first right =>
        obtain ⟨rfl, rfl⟩ := List.cons.inj rest
        cases piece with
        | kept letters =>
          exact ⟨[], front, right, pieces, by rw [← same]; rfl, rfl, rfl⟩
        | replaced letters =>
          refine absurd ?_ absent
          rw [show marker = front ++ letter :: right from same]
          exact List.mem_append_right _ List.mem_cons_self

end

end Piece

end CareerOS
