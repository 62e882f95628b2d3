/-
This file is the part of Python's `str` the program uses: `strip`, the test for
a blank text, and slicing by code points. Python strips every character that
Unicode counts as white space or that ends a line, which is more than ASCII.
-/

import Mathlib

namespace CareerOS

namespace Text

/-- The characters `str.strip()` removes. -/
def isSpace (letter : Char) : Bool :=
  let code := letter.toNat
  (0x09 ≤ code && code ≤ 0x0d) || (0x1c ≤ code && code ≤ 0x20) || code == 0x85 || code == 0xa0 ||
    code == 0x1680 || (0x2000 ≤ code && code ≤ 0x200a) || code == 0x2028 || code == 0x2029 ||
    code == 0x202f || code == 0x205f || code == 0x3000

/-- The characters without the white space at both ends. -/
def stripList (letters : List Char) : List Char :=
  (letters.dropWhile isSpace).rdropWhile isSpace

/-- `text.strip()`. -/
def strip (text : String) : String := String.ofList (stripList text.toList)

/-- `not text.strip()`. -/
def blank (text : String) : Bool := strip text == ""

/-- `text[:count]`. -/
def slice (text : String) (count : Nat) : String := String.ofList (text.toList.take count)

/-- `text or fallback`. -/
def orElse (text fallback : String) : String := if text = "" then fallback else text

/-- `text.strip() or None`. -/
def stripOrNone (text : String) : Option String :=
  if blank text then none else some (strip text)

@[simp] theorem toList_strip (text : String) : (strip text).toList = stripList text.toList :=
  String.toList_ofList

/-- What is left starts with no white space. -/
theorem dropWhile_stripList (letters : List Char) :
    (stripList letters).dropWhile isSpace = stripList letters := by
  unfold stripList
  obtain ⟨tail, split⟩ := List.rdropWhile_prefix isSpace (letters.dropWhile isSpace)
  cases kept : (letters.dropWhile isSpace).rdropWhile isSpace with
  | nil => rfl
  | cons first rest =>
    rw [kept] at split
    have solid : isSpace first = false := by
      have head := List.head?_dropWhile_not isSpace letters
      rw [← split] at head
      simpa using head
    simp [solid]

@[simp] theorem stripList_stripList (letters : List Char) :
    stripList (stripList letters) = stripList letters := by
  show ((stripList letters).dropWhile isSpace).rdropWhile isSpace = stripList letters
  rw [dropWhile_stripList]
  exact List.rdropWhile_idempotent isSpace _

/-- Stripping twice strips nothing more. -/
@[simp] theorem strip_strip (text : String) : strip (strip text) = strip text := by
  unfold strip
  rw [String.toList_ofList, stripList_stripList]

theorem length_strip_le (text : String) : (strip text).length ≤ text.length := by
  rw [← String.length_toList, ← String.length_toList, toList_strip]
  exact le_trans (List.rdropWhile_prefix isSpace _).length_le (List.length_dropWhile_le _ _)

theorem length_slice (text : String) (count : Nat) :
    (slice text count).length = min count text.length := by
  rw [← String.length_toList, ← String.length_toList]
  unfold slice
  rw [String.toList_ofList, List.length_take]

theorem length_slice_le (text : String) (count : Nat) : (slice text count).length ≤ count := by
  rw [length_slice]
  exact min_le_left _ _

theorem length_pos_of_ne {text : String} (solid : text ≠ "") : 1 ≤ text.length := by
  rw [← String.length_toList, Nat.one_le_iff_ne_zero, ne_eq, List.length_eq_zero_iff,
    String.toList_eq_nil_iff]
  exact solid

/-- A text that is short enough is not cut. -/
theorem slice_of_length_le {text : String} {count : Nat} (short : text.length ≤ count) :
    slice text count = text := by
  unfold slice
  rw [List.take_of_length_le (by rwa [String.length_toList]), String.ofList_toList]

/-- A character takes at most four bytes. -/
theorem utf8ByteSize_le {text : String} {limit : Nat} (short : text.length ≤ limit) :
    text.utf8ByteSize ≤ 4 * limit := by
  have bytes : String.utf8Len text.toList ≤ 4 * text.toList.length := by
    induction text.toList with
    | nil => exact le_rfl
    | cons letter rest inductionHypothesis =>
      have head := Char.utf8Size_le_four letter
      rw [String.utf8Len_cons, List.length_cons]
      omega
  rw [← String.utf8ByteSize_ofList, String.ofList_toList, String.length_toList] at bytes
  omega

theorem rdropWhile_append {Item : Type} {drop : Item → Bool} {before : List Item}
    {last : Item} (kept : drop last = false) (after : List Item) :
    (before ++ last :: after).rdropWhile drop = before ++ last :: after.rdropWhile drop := by
  unfold List.rdropWhile
  rw [List.reverse_append, List.reverse_cons, List.append_assoc, List.dropWhile_append]
  split
  · rename_i empty
    rw [List.isEmpty_iff.mp empty, List.cons_append, List.nil_append, List.dropWhile_cons, kept]
    simp
  · simp

/-- Lists that are joined by a mark are one item shorter than with a mark after each. -/
theorem length_intercalate {Item : Type} (mark : Item) {parts : List (List Item)}
    (some : parts ≠ []) :
    ([mark].intercalate parts).length + 1 = (parts.map fun part => part.length + 1).sum := by
  induction parts with
  | nil => exact absurd rfl some
  | cons first rest inductionHypothesis =>
    cases rest with
    | nil => simp
    | cons second others =>
      have later := inductionHypothesis (List.cons_ne_nil _ _)
      rw [List.intercalate_cons_cons, List.length_append, List.length_append, List.map_cons,
        List.sum_cons, ← later, List.length_singleton]
      omega

end Text

end CareerOS
