/-
This file is the lines of a calendar file. A content line that is too long is folded:
it is cut between characters, and each further piece stands on a line of its own behind
one space. A reader cuts the file at its line ends, joins the folded lines again, takes
the name of a property off each line and removes the escapes from its value.

Reading gives back what was written, as long as no line holds an end of line and none
begins with a space.
-/

import CareerOS.Library.TextScan

namespace CareerOS

namespace ContentLines

/-- The bytes of the UTF-8 text. -/
def octets (letters : List Char) : Nat := (letters.map Char.utf8Size).sum

@[simp] theorem octets_nil : octets [] = 0 := rfl

@[simp] theorem octets_cons (letter : Char) (letters : List Char) :
    octets (letter :: letters) = letter.utf8Size + octets letters := rfl

/-- The end of a line. -/
def crlf : List Char := ['\r', '\n']

/-- Lines, each with its end. -/
def endLines (lines : List (List Char)) : List Char := (lines.map (· ++ crlf)).flatten

/-! ### Folding -/

/-- The pieces of a line, after the piece that is being made; the pieces after it have one
octet less. -/
def foldFrom (limit : Nat) (current : List Char) : List Char → List (List Char)
  | [] => [current]
  | letter :: rest =>
    if current ≠ [] ∧ limit < octets (current ++ [letter]) then current :: foldFrom 74 [letter] rest
    else foldFrom limit (current ++ [letter]) rest

/-- The pieces of a line. -/
def pieces (line : List Char) : List (List Char) := foldFrom 75 [] line

/-- The physical lines of the pieces: those after the first begin with a space. -/
def continued : List (List Char) → List (List Char)
  | [] => []
  | first :: others => first :: others.map (' ' :: ·)

/-- The physical lines of a line. -/
def folded (line : List Char) : List (List Char) := continued (pieces line)

/-- The pieces are the line, cut where the next letter would not fit. -/
theorem foldFrom_spec (line : List Char) (limit : Nat) (current : List Char)
    (room : 4 ≤ limit) (fits : octets current ≤ limit) :
    ∃ first others, foldFrom limit current line = first :: others ∧ octets first ≤ limit ∧
      (∀ piece ∈ others, octets piece ≤ 74) ∧ current <+: first ∧
        first ++ others.flatten = current ++ line := by
  induction line generalizing limit current with
  | nil => exact ⟨current, [], rfl, fits, by simp, List.prefix_rfl, by simp⟩
  | cons letter rest inductionHypothesis =>
    have small : octets [letter] ≤ 4 := by simpa using Char.utf8Size_le_four letter
    unfold foldFrom
    split
    · obtain ⟨first, others, same, short, others_short, -, whole⟩ :=
        inductionHypothesis 74 [letter] (by omega) (small.trans (by omega))
      rw [same]
      refine ⟨current, first :: others, rfl, fits, ?_, List.prefix_rfl, ?_⟩
      · intro piece member
        rcases List.mem_cons.mp member with rfl | later
        · exact short
        · exact others_short piece later
      · rw [List.flatten_cons, whole]
        rfl
    · rename_i kept
      have grown : octets (current ++ [letter]) ≤ limit := by
        by_cases empty : current = []
        · subst empty
          exact small.trans room
        · exact not_lt.mp fun large => kept ⟨empty, large⟩
      obtain ⟨first, others, same, short, others_short, begun, whole⟩ :=
        inductionHypothesis limit (current ++ [letter]) room grown
      refine ⟨first, others, same, short, others_short, ?_, ?_⟩
      · exact (List.prefix_append current [letter]).trans begun
      · rw [whole, List.append_assoc]
        rfl

/-- A line that is not empty begins with the letter that its first piece begins with. -/
theorem pieces_cons (letter : Char) (rest : List Char) :
    ∃ first others, pieces (letter :: rest) = (letter :: first) :: others ∧
      octets (letter :: first) ≤ 75 ∧ (∀ piece ∈ others, octets piece ≤ 74) ∧
        letter :: first ++ others.flatten = letter :: rest := by
  have small : octets [letter] ≤ 75 := by
    have := Char.utf8Size_le_four letter
    rw [octets_cons, octets_nil]
    omega
  have opened : pieces (letter :: rest) = foldFrom 75 [letter] rest := by
    unfold pieces
    rw [foldFrom, if_neg (fun both => both.1 rfl)]
    rfl
  obtain ⟨piece, others, same, short, others_short, ⟨first, rfl⟩, whole⟩ :=
    foldFrom_spec rest 75 [letter] (by omega) small
  exact ⟨first, others, opened.trans same, short, others_short, whole⟩

/-- A physical line has at most 75 octets. -/
theorem octets_folded {line physical : List Char} (member : physical ∈ folded line) :
    octets physical ≤ 75 := by
  cases line with
  | nil =>
    rw [show folded [] = [[]] from rfl, List.mem_singleton] at member
    rw [member]
    exact Nat.zero_le _
  | cons letter rest =>
    obtain ⟨first, others, same, short, others_short, -⟩ := pieces_cons letter rest
    unfold folded at member
    rw [same] at member
    rcases List.mem_cons.mp member with rfl | later
    · exact short
    · obtain ⟨piece, isPiece, rfl⟩ := List.mem_map.mp later
      have bound := others_short piece isPiece
      have space : Char.utf8Size ' ' = 1 := by decide
      rw [octets_cons, space]
      omega

/-- A physical line holds a space and letters of the line. -/
theorem mem_of_mem_folded {line physical : List Char} (member : physical ∈ folded line)
    {letter : Char} (inside : letter ∈ physical) : letter = ' ' ∨ letter ∈ line := by
  cases line with
  | nil =>
    rw [show folded [] = [[]] from rfl, List.mem_singleton] at member
    rw [member] at inside
    cases inside
  | cons head rest =>
    obtain ⟨first, others, same, -, -, whole⟩ := pieces_cons head rest
    unfold folded at member
    rw [same] at member
    rw [← whole]
    rcases List.mem_cons.mp member with rfl | later
    · exact .inr (List.mem_append_left _ inside)
    · obtain ⟨piece, isPiece, rfl⟩ := List.mem_map.mp later
      rcases List.mem_cons.mp inside with rfl | found
      · exact .inl rfl
      · exact .inr (List.mem_append_right _ (List.mem_flatten.mpr ⟨piece, isPiece, found⟩))

/-! ### Reading -/

/-- The physical lines of a text, after the part of a line that was read. -/
def linesFrom (line : List Char) : List Char → List (List Char)
  | [] => if line = [] then [] else [line]
  | '\r' :: '\n' :: rest => line :: linesFrom [] rest
  | letter :: rest => linesFrom (line ++ [letter]) rest

/-- The physical lines of a text. -/
def physicalLines (text : List Char) : List (List Char) := linesFrom [] text

/-- The content lines, after the one that is being joined. -/
def unfoldFrom (current : List Char) : List (List Char) → List (List Char)
  | [] => [current]
  | (' ' :: more) :: rest => unfoldFrom (current ++ more) rest
  | line :: rest => current :: unfoldFrom line rest

/-- The content lines of physical lines. -/
def unfolded : List (List Char) → List (List Char)
  | [] => []
  | line :: rest => unfoldFrom line rest

theorem linesFrom_line {line : List Char} (plain : '\r' ∉ line) (current rest : List Char) :
    linesFrom current (line ++ crlf ++ rest) = (current ++ line) :: linesFrom [] rest := by
  induction line generalizing current with
  | nil =>
    rw [List.append_nil]
    rfl
  | cons letter line inductionHypothesis =>
    rw [List.mem_cons, not_or] at plain
    rw [List.cons_append, List.cons_append, linesFrom]
    · rw [inductionHypothesis plain.2, List.append_assoc]
      rfl
    · exact fun _ isReturn _ => plain.1 isReturn.symm

/-- Lines without a carriage return are read as they were written. -/
theorem physicalLines_endLines {lines : List (List Char)} (plain : ∀ line ∈ lines, '\r' ∉ line) :
    physicalLines (endLines lines) = lines := by
  unfold physicalLines
  induction lines with
  | nil => rfl
  | cons line rest inductionHypothesis =>
    rw [List.forall_mem_cons] at plain
    unfold endLines at inductionHypothesis ⊢
    rw [List.map_cons, List.flatten_cons, linesFrom_line plain.1, inductionHypothesis plain.2]
    rfl

theorem unfoldFrom_continued (current : List Char) (others later : List (List Char)) :
    unfoldFrom current (others.map (' ' :: ·) ++ later) =
      unfoldFrom (current ++ others.flatten) later := by
  induction others generalizing current with
  | nil => simp
  | cons piece rest inductionHypothesis =>
    rw [List.map_cons, List.cons_append, unfoldFrom, inductionHypothesis, List.flatten_cons,
      List.append_assoc]

/-- A line that begins with a letter other than a space. -/
def Begins (line : List Char) : Prop := ∃ letter rest, line = letter :: rest ∧ letter ≠ ' '

/-- Unfolding gives back the lines that were folded. -/
theorem unfolded_folded {lines : List (List Char)} (begin_ : ∀ line ∈ lines, Begins line) :
    unfolded (lines.flatMap folded) = lines := by
  have following : ∀ (lines : List (List Char)) (current : List Char),
      (∀ line ∈ lines, Begins line) →
        unfoldFrom current (lines.flatMap folded) = current :: lines := by
    intro lines
    induction lines with
    | nil =>
      intro current _
      rfl
    | cons line rest inductionHypothesis =>
      intro current begin_
      obtain ⟨letter, tail, rfl, noSpace⟩ := begin_ line List.mem_cons_self
      obtain ⟨first, others, same, -, -, whole⟩ := pieces_cons letter tail
      have shape : folded (letter :: tail) = (letter :: first) :: others.map (' ' :: ·) := by
        unfold folded
        rw [same]
        rfl
      rw [List.flatMap_cons, shape, List.cons_append, unfoldFrom, unfoldFrom_continued, whole,
        inductionHypothesis _ fun line member => begin_ line (List.mem_cons_of_mem _ member)]
      intro more isSpace
      exact noSpace (List.cons.inj isSpace).1
  cases lines with
  | nil => rfl
  | cons line rest =>
    obtain ⟨letter, tail, rfl, -⟩ := begin_ line List.mem_cons_self
    obtain ⟨first, others, same, -, -, whole⟩ := pieces_cons letter tail
    have shape : folded (letter :: tail) = (letter :: first) :: others.map (' ' :: ·) := by
      unfold folded
      rw [same]
      rfl
    rw [List.flatMap_cons, shape, List.cons_append, unfolded, unfoldFrom_continued, whole]
    exact following rest _ fun line member => begin_ line (List.mem_cons_of_mem _ member)

/-! ### Properties -/

/-- A property with its name and its value as they are written. -/
def property (name : String) (value : List Char) : List Char := name.toList ++ ':' :: value

/-- The text of a value: `\n` is an end of line, and a backslash hides what another letter
means. -/
def unescape : List Char → List Char
  | [] => []
  | '\\' :: 'n' :: rest => '\n' :: unescape rest
  | '\\' :: 'N' :: rest => '\n' :: unescape rest
  | '\\' :: letter :: rest => letter :: unescape rest
  | letter :: rest => letter :: unescape rest

/-- The name of a property and the text of its value. -/
def readProperty (line : List Char) : String × String :=
  (String.ofList (line.takeWhile (· ≠ ':')),
    String.ofList (unescape (line.dropWhile (· ≠ ':')).tail))

theorem readProperty_property {name : String} (plain : ':' ∉ name.toList) (value : List Char) :
    readProperty (property name value) = (name, String.ofList (unescape value)) := by
  have all : ∀ letter ∈ name.toList, (decide (letter ≠ ':')) = true := by
    intro letter member
    exact decide_eq_true fun isColon => plain (isColon ▸ member)
  unfold readProperty property
  rw [List.takeWhile_append_of_pos all, List.dropWhile_append_of_pos all]
  simp

theorem unescape_plain {letter : Char} (plain : letter ≠ '\\') (rest : List Char) :
    unescape (letter :: rest) = letter :: unescape rest := by
  rw [unescape] <;> simp_all

/-- A value without a backslash is its own text. -/
theorem unescape_append {value : List Char} (plain : '\\' ∉ value) (rest : List Char) :
    unescape (value ++ rest) = value ++ unescape rest := by
  induction value with
  | nil => rfl
  | cons letter value inductionHypothesis =>
    rw [List.mem_cons, not_or] at plain
    rw [List.cons_append, unescape_plain (Ne.symm plain.1), inductionHypothesis plain.2]
    rfl

theorem unescape_eq_self {value : List Char} (plain : '\\' ∉ value) : unescape value = value := by
  have := unescape_append plain []
  rwa [List.append_nil, show unescape [] = [] from rfl, List.append_nil] at this

end ContentLines

end CareerOS
