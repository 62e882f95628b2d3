/-
This file is how the program cleans a text before it goes into a catalog row, a
prompt or a fingerprint: HTML tags and entities, control characters, white
space, and the cut to a number of characters.
-/

import CareerOS.Library.TextScan

namespace CareerOS

open Text

/-! ### HTML -/

/-- `re.sub(r"<[^>]+>", "", text)`, inside of what may be a tag or outside. A `<` that no `>`
closes, or that one closes at once, is not a tag. -/
def removeTags : Option (List Char) → List Char → List Char
  | none, [] => []
  | some held, [] => '<' :: held
  | none, letter :: rest =>
    if letter = '<' then removeTags (some []) rest else letter :: removeTags none rest
  | some held, letter :: rest =>
    if letter = '>' then
      if held = [] then '<' :: '>' :: removeTags none rest else removeTags none rest
    else removeTags (some (held ++ [letter])) rest

/-- The four entities that are decoded, in the order of the source. -/
def decodeEntities (letters : List Char) : List Char :=
  replaceAll "&gt;" ">" (replaceAll "&lt;" "<" (replaceAll "&amp;" "&"
    (replaceAll "&nbsp;" " " letters)))

/-- `clean_html_tags`. -/
def cleanHtmlTags (text : String) : String :=
  String.ofList (joinWords (decodeEntities (removeTags none text.toList)))

/-! ### Prompt and fingerprint text -/

/-- The characters of `[\x00-\x08\x0B\x0C\x0E-\x1F]`. -/
def isPromptControl (letter : Char) : Bool :=
  let code := letter.toNat
  code ≤ 0x08 || code == 0x0b || code == 0x0c || (0x0e ≤ code && code ≤ 0x1f)

/-- `text[:max_chars].rstrip()` for a text that is longer. -/
def cutPromptText (maxChars : Option Nat) (letters : List Char) : List Char :=
  match maxChars with
  | some limit => if limit < letters.length then rstripList (letters.take limit) else letters
  | none => letters

/-- `sanitize_prompt_text`. -/
def sanitizePromptText (text : String) (maxChars : Option Nat) : String :=
  let lines := replaceAll "\r" "\n" (replaceAll "\r\n" "\n" text.toList)
  let printable := lines.map fun letter => if isPromptControl letter then ' ' else letter
  String.ofList (cutPromptText maxChars (stripList (limitLineEndsFrom 0 printable)))

/-- `normalize_cache_text`. -/
def normalizeCacheText (text : String) (maxChars : Option Nat) : String :=
  let letters := (sanitizePromptText text maxChars).toList
  let spaced := collapse (fun letter => letter == ' ' || letter == '\t') ' ' letters
  strip (String.ofList (limitLineEndsFrom 0 spaced))

/-- `_normalize_fingerprint_text`. -/
def normalizeFingerprintText (text : String) (maxChars : Option Nat) : String :=
  strip (String.ofList (collapse isSpace ' ' (normalizeCacheText text maxChars).toList))

example : cleanHtmlTags "<p>Pay &gt; 5 <</p> <>&nbsp;ok" = "Pay > 5 <> ok" := by decide

end CareerOS
