/-
This file is the guard in front of the XML parsers: a member that declares a document
type or an entity is refused before it is parsed. The guard looks for the declaration
in the bytes of the member, in ASCII, and the parsers read it in the encoding of the
member. In UTF-8 and in every single-byte encoding the parsers accept, the bytes of a
declaration are its letters. In UTF-16 they are not, and the guard lets it pass.

The parsers are parameters.
-/

import CareerOS.Library.Outcome

namespace CareerOS

/-! ### The guard -/

/-- `\s` in a pattern of bytes. -/
def isBlankByte (byte : UInt8) : Bool := (9 ≤ byte && byte ≤ 13) || byte == 32

/-- A byte without the case of an ASCII letter. -/
def foldByte (byte : UInt8) : UInt8 := if 65 ≤ byte ∧ byte ≤ 90 then byte + 32 else byte

/-- The bytes of a text in ASCII. -/
def asciiBytes (text : String) : List UInt8 :=
  text.toList.map fun letter => UInt8.ofNat letter.toNat

/-- The two words, in small letters. -/
def declarationWords : List (List UInt8) := [asciiBytes "doctype", asciiBytes "entity"]

/-- `<!\s*(?:DOCTYPE|ENTITY)` at the start, whatever the case. -/
def startsDeclaration : List UInt8 → Bool
  | first :: second :: rest => first == 0x3c && second == 0x21 &&
      declarationWords.any fun word =>
        word.isPrefixOf ((rest.dropWhile isBlankByte).map foldByte)
  | _ => false

/-- `re.search(rb"<!\s*(?:DOCTYPE|ENTITY)", content, re.IGNORECASE)`. -/
def searchDeclaration : List UInt8 → Bool
  | [] => false
  | byte :: rest => startsDeclaration (byte :: rest) || searchDeclaration rest

/-- The refusal of a member. -/
def forbiddenDeclaration (path : String) : String :=
  "Package member " ++ path ++ " contains forbidden DTD or ENTITY declaration"

/-- `check_no_dtd_or_entity`. -/
def checkNoDtdOrEntity (content : List UInt8) (path : String) : Except String Unit :=
  refuseWhen (searchDeclaration content) (forbiddenDeclaration path)

section

variable {Tree : Type} (parse : List UInt8 → Except String Tree)

/-- `safe_read_xml`, of what is read for a member. -/
def safeReadXml (content : Except String (List UInt8)) (path : String) : Except String Tree := do
  let content ← content
  checkNoDtdOrEntity content path
  parse content

/-- `scan_credentials_worksheet_stream`. -/
def scanCredentialsWorksheetStream (content : List UInt8) (path : String) : Except String Tree := do
  checkNoDtdOrEntity content path
  parse content

/-- `parse_shared_strings_stream`. -/
def parseSharedStringsStream (content : List UInt8) (path : String) : Except String Tree := do
  checkNoDtdOrEntity content path
  parse content

end

/-! ### Encodings -/

/-- The ASCII letters that have no meaning in markup. -/
def plainAscii : List Char := "$@\\^\x60\x7b\x7d~\x7f".toList

/-- A single-byte encoding the parsers accept: the letters of markup are where ASCII has them. -/
structure SingleByteTable where
  decode : UInt8 → Option Char
  markup : ∀ byte letter, decode byte = some letter → letter.toNat < 0x80 → letter ∉ plainAscii →
    byte.toNat = letter.toNat

/-- An encoding of an XML document, with or without its byte order mark. -/
inductive XmlEncoding where
  | utf8 (mark : Bool)
  | utf16 (bigEndian mark : Bool)
  | singleByte (table : SingleByteTable)

/-- The code units of a letter in UTF-16. -/
def wideUnits (letter : Char) : List Nat :=
  let code := letter.toNat
  if code < 0x10000 then [code]
  else [0xd800 + (code - 0x10000) / 0x400, 0xdc00 + (code - 0x10000) % 0x400]

/-- The two bytes of a code unit. -/
def unitBytes (bigEndian : Bool) (unit : Nat) : List UInt8 :=
  if bigEndian then [UInt8.ofNat (unit / 256), UInt8.ofNat unit]
  else [UInt8.ofNat unit, UInt8.ofNat (unit / 256)]

/-- The bytes of a text in UTF-16. -/
def wideBytes (bigEndian : Bool) (text : List Char) : List UInt8 :=
  (text.flatMap wideUnits).flatMap (unitBytes bigEndian)

/-- The bytes are read as the text. -/
def XmlEncoding.Reads : XmlEncoding → List UInt8 → List Char → Prop
  | .utf8 mark, content, text =>
    content = (if mark then [0xef, 0xbb, 0xbf] else []) ++ text.flatMap String.utf8EncodeChar
  | .utf16 bigEndian mark, content, text =>
    content = (if mark then unitBytes bigEndian 0xfeff else []) ++ wideBytes bigEndian text
  | .singleByte table, content, text =>
    List.Forall₂ (fun byte letter => table.decode byte = some letter) content text

/-- The encoding is UTF-16. -/
def XmlEncoding.Wide : XmlEncoding → Prop
  | .utf16 _ _ => True
  | _ => False

/-- The text of a document declares a document type or an entity. -/
def Declares (text : List Char) : Prop :=
  "<!DOCTYPE".toList <:+: text ∨ "<!ENTITY".toList <:+: text

/-- The bytes spell a declaration in ASCII: an opening, blanks, and one of the words. -/
def Spelled (content : List UInt8) : Prop :=
  ∃ before blanks word after, content = before ++ [0x3c, 0x21] ++ blanks ++ word ++ after ∧
    (∀ byte ∈ blanks, isBlankByte byte = true) ∧ word.map foldByte ∈ declarationWords

/-- A member is refused before any of the parsers sees it. -/
structure RefusedUnparsed (content : List UInt8) : Prop where
  check : ∀ path, checkNoDtdOrEntity content path = .error (forbiddenDeclaration path)
  safeRead : ∀ {Tree : Type} (parse : List UInt8 → Except String Tree) path,
    safeReadXml parse (.ok content) path = .error (forbiddenDeclaration path)
  credentials : ∀ {Tree : Type} (parse : List UInt8 → Except String Tree) path,
    scanCredentialsWorksheetStream parse content path = .error (forbiddenDeclaration path)
  sharedStrings : ∀ {Tree : Type} (parse : List UInt8 → Except String Tree) path,
    parseSharedStringsStream parse content path = .error (forbiddenDeclaration path)

/-! ### What the guard finds -/

/-- No word begins with a blank, so the blanks before it are those that are skipped. -/
theorem dropWhile_blanks {blanks word after : List UInt8}
    (blank : ∀ byte ∈ blanks, isBlankByte byte = true)
    (known : word.map foldByte ∈ declarationWords) :
    (blanks ++ word ++ after).dropWhile isBlankByte = word ++ after := by
  have start : ∃ first rest, word = first :: rest ∧ isBlankByte first = false := by
    cases word with
    | nil => exact absurd known (by decide)
    | cons first rest =>
      refine ⟨first, rest, rfl, ?_⟩
      rw [List.map_cons] at known
      have letter : foldByte first = 100 ∨ foldByte first = 101 := by
        simp only [declarationWords, List.mem_cons, List.not_mem_nil, or_false] at known
        rcases known with same | same
        · exact .inl (List.cons.inj same).1
        · exact .inr (List.cons.inj same).1
      unfold foldByte at letter
      unfold isBlankByte
      grind
  obtain ⟨first, rest, rfl, solid⟩ := start
  rw [List.append_assoc, List.dropWhile_append_of_pos blank, List.cons_append,
    List.dropWhile_cons_of_neg (by rw [solid]; decide)]

variable {content : List UInt8}

theorem startsDeclaration_iff : startsDeclaration content = true ↔
    ∃ blanks word after, content = [0x3c, 0x21] ++ blanks ++ word ++ after ∧
      (∀ byte ∈ blanks, isBlankByte byte = true) ∧ word.map foldByte ∈ declarationWords := by
  constructor
  · intro starts
    unfold startsDeclaration at starts
    split at starts
    · next first second rest =>
      simp only [Bool.and_eq_true, beq_iff_eq, List.any_eq_true] at starts
      obtain ⟨⟨rfl, rfl⟩, word, known, begins⟩ := starts
      obtain ⟨tail, split⟩ := List.isPrefixOf_iff_prefix.mp begins
      obtain ⟨written, after, whole, spelled, -⟩ := List.map_eq_append_iff.mp split.symm
      refine ⟨rest.takeWhile isBlankByte, written, after, ?_, ?_, ?_⟩
      · have parts := List.takeWhile_append_dropWhile (p := isBlankByte) (l := rest)
        rw [whole] at parts
        rw [List.append_assoc, List.append_assoc, parts]
        rfl
      · exact fun byte member => List.mem_takeWhile_imp member
      · rw [spelled]
        exact known
    · cases starts
  · rintro ⟨blanks, word, after, rfl, blank, known⟩
    have skipped : (blanks ++ word ++ after).dropWhile isBlankByte = word ++ after :=
      dropWhile_blanks blank known
    show startsDeclaration (0x3c :: 0x21 :: (blanks ++ word ++ after)) = true
    simp only [startsDeclaration, skipped, List.map_append, Bool.and_eq_true, beq_iff_eq,
      List.any_eq_true, true_and]
    exact ⟨_, known, List.isPrefixOf_iff_prefix.mpr (List.prefix_append _ _)⟩

/-- The search finds a declaration that is spelled anywhere. -/
theorem searchDeclaration_iff :
    searchDeclaration content = true ↔ Spelled content := by
  induction content with
  | nil =>
    refine iff_of_false (by decide) ?_
    rintro ⟨before, blanks, word, after, split, -⟩
    have length := congrArg List.length split
    simp only [List.length_nil, List.length_append, List.length_cons] at length
    omega
  | cons byte rest inductionHypothesis =>
    unfold searchDeclaration
    rw [Bool.or_eq_true, inductionHypothesis, startsDeclaration_iff]
    constructor
    · rintro (⟨blanks, word, after, split, known⟩ | ⟨before, blanks, word, after, rfl, known⟩)
      · exact ⟨[], blanks, word, after, split, known⟩
      · exact ⟨byte :: before, blanks, word, after, rfl, known⟩
    · rintro ⟨before, blanks, word, after, split, known⟩
      cases before with
      | nil => exact .inl ⟨blanks, word, after, split, known⟩
      | cons first others =>
        obtain ⟨-, rfl⟩ := List.cons.inj split
        exact .inr ⟨others, blanks, word, after, rfl, known⟩

theorem refusedUnparsed_iff : RefusedUnparsed content ↔ Spelled content := by
  rw [← searchDeclaration_iff]
  constructor
  · intro refused
    by_contra passes
    have accepted : checkNoDtdOrEntity content "" = .ok ⟨⟩ := refuseWhen_ok_iff.mpr passes
    rw [refused.check ""] at accepted
    cases accepted
  · intro found
    have check (path : String) :
        checkNoDtdOrEntity content path = .error (forbiddenDeclaration path) := if_pos found
    exact {
      check
      safeRead := fun parse path => by
        simp only [safeReadXml, bind, Except.bind, check]
      credentials := fun parse path => by
        simp only [scanCredentialsWorksheetStream, bind, Except.bind, check]
      sharedStrings := fun parse path => by
        simp only [parseSharedStringsStream, bind, Except.bind, check] }

/-! ### Declarations in their encodings -/

variable {text : List Char}

/-- The letters of the two openings. -/
theorem opening_of_declares (declares : Declares text) :
    ∃ opening before after, text = before ++ opening ++ after ∧
      opening ∈ ["<!DOCTYPE".toList, "<!ENTITY".toList] := by
  rcases declares with ⟨before, after, rfl⟩ | ⟨before, after, rfl⟩
  · exact ⟨_, before, after, rfl, List.mem_cons_self⟩
  · exact ⟨_, before, after, rfl, List.mem_cons_of_mem _ List.mem_cons_self⟩

variable {opening : List Char}

/-- Bytes that hold an opening in ASCII spell a declaration. -/
theorem spelled_of_opening {before after : List UInt8}
    (known : opening ∈ ["<!DOCTYPE".toList, "<!ENTITY".toList]) :
    Spelled (before ++ (opening.map fun letter => UInt8.ofNat letter.toNat) ++ after) := by
  have parts : ∃ word, opening.map (fun letter => UInt8.ofNat letter.toNat) =
      [0x3c, 0x21] ++ [] ++ word ∧ word.map foldByte ∈ declarationWords := by
    rcases List.mem_cons.mp known with rfl | last
    · exact ⟨asciiBytes "DOCTYPE", by decide, by decide⟩
    · rw [List.mem_singleton.mp last]
      exact ⟨asciiBytes "ENTITY", by decide, by decide⟩
  obtain ⟨word, split, spelled⟩ := parts
  refine ⟨before, [], word, after, ?_, nofun, spelled⟩
  rw [split]
  simp only [List.append_assoc]

theorem utf8_opening (known : opening ∈ ["<!DOCTYPE".toList, "<!ENTITY".toList]) :
    opening.flatMap String.utf8EncodeChar = opening.map fun letter => UInt8.ofNat letter.toNat := by
  rcases List.mem_cons.mp known with rfl | last
  · decide
  · rw [List.mem_singleton.mp last]
    decide

/-- In a single-byte encoding the letters of an opening are its bytes. -/
theorem singleByte_opening (table : SingleByteTable)
    (known : opening ∈ ["<!DOCTYPE".toList, "<!ENTITY".toList])
    (reads : List.Forall₂ (fun byte letter => table.decode byte = some letter) content opening) :
    content = opening.map fun letter => UInt8.ofNat letter.toNat := by
  have markup : ∀ letter ∈ opening, letter.toNat < 0x80 ∧ letter ∉ plainAscii := by
    rcases List.mem_cons.mp known with rfl | last
    · exact List.all_iff_forall_prop.mp (by decide)
    · rw [List.mem_singleton.mp last]
      exact List.all_iff_forall_prop.mp (by decide)
  clear known
  induction reads with
  | nil => rfl
  | cons here _ inductionHypothesis =>
    obtain ⟨⟨low, plain⟩, later⟩ := List.forall_mem_cons.mp markup
    rw [List.map_cons, inductionHypothesis later, ← table.markup _ _ here low plain,
      UInt8.ofNat_toNat]

/-- Outside UTF-16 a declaration is spelled in the bytes. -/
theorem spelled_of_declares {encoding : XmlEncoding}
    (reads : encoding.Reads content text) (declares : Declares text) (narrow : ¬encoding.Wide) :
    Spelled content := by
  obtain ⟨opening, before, after, rfl, known⟩ := opening_of_declares declares
  cases encoding with
  | utf8 mark =>
    obtain rfl : content = _ := reads
    rw [List.flatMap_append, List.flatMap_append, utf8_opening known, ← List.append_assoc,
      ← List.append_assoc]
    exact spelled_of_opening known
  | utf16 bigEndian mark => exact absurd trivial narrow
  | singleByte table =>
    have front := List.forall₂_take_append content (before ++ opening) after reads
    have middle := List.forall₂_drop_append _ before opening front
    have bytes := singleByte_opening table known middle
    rw [← List.take_append_drop (before ++ opening).length content,
      ← List.take_append_drop before.length (content.take (before ++ opening).length), bytes]
    exact spelled_of_opening known

/-- The bytes of Latin letters in UTF-16: one of each pair is zero. -/
theorem wideBytes_latin (latin : ∀ letter ∈ text, letter.toNat < 0x100)
    (bigEndian : Bool) : wideBytes bigEndian text = text.flatMap fun letter =>
      if bigEndian then [0, UInt8.ofNat letter.toNat] else [UInt8.ofNat letter.toNat, 0] := by
  unfold wideBytes
  rw [List.flatMap_assoc]
  refine List.flatMap_congr fun letter member => ?_
  have small := latin letter member
  have low : letter.toNat < 0x10000 := by omega
  have high : letter.toNat / 256 = 0 := Nat.div_eq_of_lt small
  simp only [wideUnits, if_pos low, List.flatMap_singleton, unitBytes, high]
  rfl

/-- An opening does not begin at a byte that is not its first, or before one that is not its
second. -/
theorem unopened_cons {byte : UInt8} {rest : List UInt8} (unopened : ¬[0x3c, 0x21] <:+: rest)
    (apart : byte = 0x3c → ¬[0x21] <+: rest) : ¬[0x3c, 0x21] <:+: byte :: rest := by
  intro opened
  rcases List.infix_cons_iff.mp opened with here | later
  · obtain ⟨same, next⟩ := List.cons_prefix_cons.mp here
    exact apart same.symm next
  · exact unopened later

theorem unopened_wideBytes (latin : ∀ letter ∈ text, letter.toNat < 0x100)
    (bigEndian : Bool) : ¬[0x3c, 0x21] <:+: wideBytes bigEndian text := by
  rw [wideBytes_latin latin]
  clear latin
  induction text with
  | nil => exact fun opened => absurd (List.infix_nil.mp opened) (List.cons_ne_nil _ _)
  | cons letter rest inductionHypothesis =>
    rw [List.flatMap_cons]
    cases bigEndian with
    | true =>
      refine unopened_cons (unopened_cons inductionHypothesis fun _ next => ?_) nofun
      cases rest with
      | nil => exact absurd (List.prefix_nil.mp next) (List.cons_ne_nil _ _)
      | cons other others =>
        obtain ⟨impossible, -⟩ := List.cons_prefix_cons.mp next
        cases impossible
    | false =>
      refine unopened_cons (unopened_cons inductionHypothesis nofun) fun _ next => ?_
      obtain ⟨impossible, -⟩ := List.cons_prefix_cons.mp next
      cases impossible

/-- In UTF-16 no declaration of a document in Latin letters is spelled in its bytes. -/
theorem not_spelled_latin {bigEndian mark : Bool}
    (reads : (XmlEncoding.utf16 bigEndian mark).Reads content text)
    (latin : ∀ letter ∈ text, letter.toNat < 0x100) : ¬Spelled content := by
  have unopened := unopened_wideBytes latin bigEndian
  have whole : ¬[0x3c, 0x21] <:+: content := by
    obtain rfl : content = _ := reads
    cases mark with
    | false => exact unopened
    | true =>
      cases bigEndian with
      | true => exact unopened_cons (unopened_cons unopened nofun) nofun
      | false => exact unopened_cons (unopened_cons unopened nofun) nofun
  rintro ⟨before, blanks, word, after, rfl, -⟩
  exact whole ⟨before, blanks ++ word ++ after, by simp only [List.append_assoc]⟩

/-- A member that declares a document type or an entity is refused before it is parsed exactly when
it is not in UTF-16, or when its bytes spell a declaration in ASCII all the same, for which its
text needs other than Latin letters. -/
theorem declaration_refused_iff {encoding : XmlEncoding} {content : List UInt8} {text : List Char}
    (reads : encoding.Reads content text) (declares : Declares text) :
    (RefusedUnparsed content ↔ ¬encoding.Wide ∨ Spelled content) ∧
      (encoding.Wide → (∀ letter ∈ text, letter.toNat < 0x100) → ¬RefusedUnparsed content) := by
  constructor
  · rw [refusedUnparsed_iff]
    refine ⟨.inr, fun either => ?_⟩
    rcases either with narrow | spelled
    · exact spelled_of_declares reads declares narrow
    · exact spelled
  · intro wide latin
    rw [refusedUnparsed_iff]
    cases encoding with
    | utf8 mark => cases wide
    | utf16 bigEndian mark => exact not_spelled_latin reads latin
    | singleByte table => cases wide

/-- A document with a declaration, in UTF-8. -/
theorem declaration_refused_utf8 : RefusedUnparsed (asciiBytes "<!DOCTYPE r><r/>") := by
  have reads : (XmlEncoding.utf8 false).Reads (asciiBytes "<!DOCTYPE r><r/>")
      "<!DOCTYPE r><r/>".toList := by
    show _ = _
    decide
  have declares : Declares "<!DOCTYPE r><r/>".toList :=
    .inl ⟨[], " r><r/>".toList, by decide⟩
  exact (declaration_refused_iff reads declares).1.mpr (.inl nofun)

/-- The same document in UTF-16 passes the guard. -/
theorem declaration_passes_utf16 : ∃ content,
    (XmlEncoding.utf16 false true).Reads content "<!DOCTYPE r><r/>".toList ∧
      Declares "<!DOCTYPE r><r/>".toList ∧
        checkNoDtdOrEntity content "xl/workbook.xml" = .ok () :=
  ⟨_, rfl, .inl ⟨[], " r><r/>".toList, by decide⟩, by decide⟩

end CareerOS
