/-
This file is what trimming one kind of character leaves for the trimming of another. A
text is its two edges of the first kind around what is left of it. Trimming both kinds is
trimming the second alone exactly when the second kind holds the whole of these edges:
trimming drops nothing of another kind, so a letter of an edge that is not of the second
kind is missing from one side only.
-/

import CareerOS.Library.Spacing

namespace CareerOS

namespace Text

variable {kind other : Char → Bool}

/-- The letters of a kind at both ends of a text. -/
def edges (kind : Char → Bool) (letters : List Char) : List Char :=
  letters.takeWhile kind ++ (letters.dropWhile kind).rtakeWhile kind

/-- A text between its edges. -/
theorem eq_trim_between (kind : Char → Bool) (letters : List Char) :
    letters = letters.takeWhile kind ++ (trim kind letters ++
      (letters.dropWhile kind).rtakeWhile kind) := by
  unfold trim
  rw [List.rdropWhile_append_rtakeWhile, List.takeWhile_append_dropWhile]

variable {letters : List Char}

theorem kind_of_mem_edges {letter : Char}
    (member : letter ∈ edges kind letters) : kind letter = true := by
  rcases List.mem_append.mp member with front | back
  · exact List.mem_takeWhile_imp front
  · exact List.mem_rtakeWhile_imp back

theorem mem_of_mem_edges {letter : Char}
    (member : letter ∈ edges kind letters) : letter ∈ letters := by
  rw [eq_trim_between kind letters, List.mem_append, List.mem_append]
  rcases List.mem_append.mp member with front | back
  · exact .inl front
  · exact .inr (.inr back)

/-- Letters of the kind around a text are trimmed with it. -/
theorem trim_between {front middle back : List Char} (before : ∀ letter ∈ front, kind letter = true)
    (after : ∀ letter ∈ back, kind letter = true) :
    trim kind (front ++ (middle ++ back)) = trim kind middle := by
  have last : ∀ letters : List Char,
      (letters ++ back).rdropWhile kind = letters.rdropWhile kind := by
    intro letters
    unfold List.rdropWhile
    rw [List.reverse_append, List.dropWhile_append_of_pos]
    exact fun letter member => after letter (List.mem_reverse.mp member)
  unfold trim
  rw [List.dropWhile_append_of_pos before, List.dropWhile_append]
  split
  · rename_i empty
    have nothing : middle.dropWhile kind = [] := by simpa using empty
    rw [nothing, List.dropWhile_eq_nil_iff.mpr after]
  · exact last _

/-- Trimming drops nothing of another kind. -/
theorem countP_trim (kind : Char → Bool) (letters : List Char) :
    (trim kind letters).countP (fun letter => !kind letter) =
      letters.countP fun letter => !kind letter := by
  have none : ∀ edge : List Char, (∀ letter ∈ edge, kind letter = true) →
      edge.countP (fun letter => !kind letter) = 0 := by
    intro edge among
    rw [List.countP_eq_zero]
    intro letter member
    rw [among letter member]
    decide
  conv_rhs => rw [eq_trim_between kind letters]
  rw [List.countP_append, List.countP_append, none _ fun letter => List.mem_takeWhile_imp,
    none _ fun letter => List.mem_rtakeWhile_imp, Nat.zero_add, Nat.add_zero]

/-- Trimming both kinds is trimming the second exactly when it holds the edges of the first. -/
theorem trim_trim_eq_iff :
    trim other (trim kind letters) = trim other letters ↔
      ∀ letter ∈ edges kind letters, other letter = true := by
  constructor
  · intro same letter member
    have whole := countP_trim other letters
    rw [← same, countP_trim, eq_trim_between kind letters, List.countP_append,
      List.countP_append, ← eq_trim_between kind letters] at whole
    have none : (edges kind letters).countP (fun letter => !other letter) = 0 := by
      unfold edges
      rw [List.countP_append]
      omega
    have here := List.countP_eq_zero.mp none letter member
    simpa using here
  · intro among
    conv_rhs => rw [eq_trim_between kind letters]
    exact (trim_between (fun letter member => among letter (List.mem_append_left _ member))
      fun letter member => among letter (List.mem_append_right _ member)).symm

theorem trim_eq_nil_iff :
    trim kind letters = [] ↔ ∀ letter ∈ letters, kind letter = true := by
  constructor
  · intro empty letter member
    rw [eq_trim_between kind letters, empty, List.nil_append] at member
    exact kind_of_mem_edges member
  · intro among
    unfold trim
    rw [List.dropWhile_eq_nil_iff.mpr among]
    rfl

end Text

end CareerOS
