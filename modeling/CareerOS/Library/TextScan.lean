/-
This file is how the program scans a text from left to right: `str.replace`,
the maximal runs of a kind of character (`str.split()`, and the `findall` of a
character class), a run replaced by one character, and the tail left by
`rstrip`. Each is one structural recursion over the characters, so that it
evaluates on a concrete text.
-/

import CareerOS.Library.Text

namespace CareerOS

namespace Text

/-- `text.replace(old, new)` on characters, after so many characters of the last match. -/
def replaceFrom (old new : List Char) : Nat → List Char → List Char
  | _, [] => []
  | skip + 1, _ :: rest => replaceFrom old new skip rest
  | 0, letter :: rest =>
    if old.isPrefixOf (letter :: rest) then new ++ replaceFrom old new (old.length - 1) rest
    else letter :: replaceFrom old new 0 rest

/-- `text.replace(old, new)` for a text to find that is not empty. -/
def replaceAll (old new : String) (letters : List Char) : List Char :=
  replaceFrom old.toList new.toList 0 letters

/-- The maximal runs of the characters of a kind, after the run that is being read. -/
def runsFrom (kind : Char → Bool) : List Char → List Char → List (List Char)
  | run, [] => if run = [] then [] else [run]
  | run, letter :: rest =>
    if kind letter then runsFrom kind (run ++ [letter]) rest
    else if run = [] then runsFrom kind [] rest
    else run :: runsFrom kind [] rest

/-- `re.findall("[kind]+", text)`. -/
def runs (kind : Char → Bool) (letters : List Char) : List (List Char) := runsFrom kind [] letters

/-- `" ".join(text.split())`. -/
def joinWords (letters : List Char) : List Char :=
  (runs (fun letter => !isSpace letter) letters).intersperse [' '] |>.flatten

/-- `re.sub("[kind]+", by, text)`, after a character that is or is not of the kind. -/
def collapseFrom (kind : Char → Bool) (by_ : Char) : Bool → List Char → List Char
  | _, [] => []
  | inside, letter :: rest =>
    if kind letter then
      if inside then collapseFrom kind by_ true rest else by_ :: collapseFrom kind by_ true rest
    else letter :: collapseFrom kind by_ false rest

/-- `re.sub("[kind]+", by, text)`. -/
def collapse (kind : Char → Bool) (by_ : Char) (letters : List Char) : List Char :=
  collapseFrom kind by_ false letters

/-- `re.sub("\n{3,}", "\n\n", text)`, after so many line ends. -/
def limitLineEndsFrom : Nat → List Char → List Char
  | _, [] => []
  | seen, letter :: rest =>
    if letter = '\n' then
      if seen < 2 then letter :: limitLineEndsFrom (seen + 1) rest
      else limitLineEndsFrom seen rest
    else letter :: limitLineEndsFrom 0 rest

/-- `text.rstrip()`. -/
def rstripList (letters : List Char) : List Char := letters.rdropWhile isSpace

end Text

end CareerOS
