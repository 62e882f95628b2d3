/-
This file is the network location of an address, written from a host and a port and read
again. It is read as the host and the port it was written from when the host has a colon
only inside brackets and no bracket of its own. The Unicode tables stay a parameter; what is
used of them is what they do with ASCII text, and that a location `urlsplit` has checked
hides no delimiter from IDNA.
-/

import CareerOS.Library.Split
import CareerOS.Library.UrlText

namespace CareerOS

namespace Url

/-- A letter of ASCII in lower case, and any other letter as it is. -/
def lowerLetter (letter : Char) : Char :=
  if 0x41 ≤ letter.toNat ∧ letter.toNat ≤ 0x5a then Char.ofNat (letter.toNat + 0x20) else letter

/-- The labels of a name as the IDNA codec checks them: of 1 to 63 letters, and the last one may
be empty. -/
def labelsFit (name : List Char) : Bool :=
  (name.splitOn '.').dropLast.all (fun label => label ≠ [] && label.length < 64) &&
    ((name.splitOn '.').getLastD []).length < 64

end Url

open Url in
/-- What `str.lower()`, the IDNA codec and `ipaddress` do with ASCII text, and what
`_checknetloc` is there for. -/
class HostTables extends TextTables where
  lower_ascii : ∀ letters, isAscii letters = true →
    lower (String.ofList letters) = String.ofList (letters.map lowerLetter)
  idna_ascii : ∀ letters, isAscii letters = true →
    idna (String.ofList letters) = if labelsFit letters then some (String.ofList letters) else none
  ascii_idna : ∀ text encoded, idna text = some encoded → isAscii encoded.toList = true
  ipv6_colon : ∀ text, isIpv6 text = true → ':' ∈ text.toList
  /-- No delimiter of the host in IDNA was hidden in a location that was checked. -/
  idna_checked : ∀ (parsed : SplitResult) name encoded, checkNetloc parsed.netloc = .ok () →
    parsed.hostname = some name → idna name = some encoded →
      ∀ mark ∈ ['/', '?', '#', '@'], mark ∈ encoded.toList → mark ∈ parsed.netloc

namespace Url

/-! ### Letters -/

variable {letters : List Char}

theorem isAscii_of_forall
    (low : ∀ letter ∈ letters, letter.toNat < 0x80) : isAscii letters = true :=
  List.all_eq_true.mpr fun letter member => decide_eq_true (low letter member)

theorem forall_of_isAscii (ascii : isAscii letters = true) :
    ∀ letter ∈ letters, letter.toNat < 0x80 :=
  fun letter member => of_decide_eq_true (List.all_eq_true.mp ascii letter member)

variable {letter : Char}

theorem toNat_lt_of_isDigit (digit : isDigit letter = true) :
    letter.toNat < 0x80 := by
  unfold isDigit at digit
  simp only [Bool.and_eq_true, decide_eq_true_eq] at digit
  omega

theorem toNat_lowerLetter (upper : 0x41 ≤ letter.toNat ∧ letter.toNat ≤ 0x5a) :
    (Char.ofNat (letter.toNat + 0x20)).toNat = letter.toNat + 0x20 := by
  have valid : (letter.toNat + 0x20).isValidChar := .inl (by omega)
  rw [Char.ofNat, dif_pos valid]
  rfl

theorem lowerLetter_lowerLetter (letter : Char) :
    lowerLetter (lowerLetter letter) = lowerLetter letter := by
  unfold lowerLetter
  by_cases upper : 0x41 ≤ letter.toNat ∧ letter.toNat ≤ 0x5a
  · rw [if_pos upper, if_neg]
    rw [toNat_lowerLetter upper]
    omega
  · rw [if_neg upper, if_neg upper]

/-! ### Ports -/

theorem digits_port (port : Nat) : (toString port).toList = Nat.toDigits 10 port :=
  String.toList_ofList

theorem isDigit_of_mem_port {port : Nat}
    (member : letter ∈ (toString port).toList) : isDigit letter = true := by
  rw [digits_port] at member
  have digit := Nat.isDigit_of_mem_toDigits (by decide) (by decide) member
  unfold Char.isDigit at digit
  unfold isDigit
  simp only [ge_iff_le, Bool.and_eq_true, decide_eq_true_eq, UInt32.le_iff_toNat_le] at digit
  simpa using digit

theorem decimal_port (port : Nat) : decimal (toString port).toList = port := by
  have same : decimal (toString port).toList =
      Nat.ofDigitChars 10 (Nat.toDigits 10 port) 0 := by
    rw [digits_port, Nat.ofDigitChars_eq_foldl]
    unfold decimal
    simp only [Nat.mul_comm]
    rfl
  rw [same, Nat.ofDigitChars_ten_toDigits]

variable {mark : Char}

/-- A mark is no digit. -/
theorem not_mem_port (other : isDigit mark = false) (port : Nat) :
    mark ∉ (toString port).toList := by
  intro member
  rw [isDigit_of_mem_port member] at other
  cases other

/-- A port with its colon. -/
def portText : Option Nat → List Char
  | none => []
  | some port => ':' :: (toString port).toList

theorem portText_cases (port : Option Nat) :
    portText port = [] ∨ (portText port).head? = some ':' := by
  cases port with
  | none => exact .inl rfl
  | some port => exact .inr rfl

theorem not_mem_portText (noDigit : isDigit mark = false) (noColon : mark ≠ ':')
    (port : Option Nat) : mark ∉ portText port := by
  cases port with
  | none => exact List.not_mem_nil
  | some port =>
    intro member
    rcases List.mem_cons.mp member with colon | digit
    · exact noColon colon
    · exact not_mem_port noDigit port digit

theorem partition_portText {before : List Char} (outside : ':' ∉ before) (port : Option Nat) :
    partition ':' (before ++ portText port) =
      (before, port.isSome, (portText port).tail) := by
  cases port with
  | none =>
    unfold portText
    rw [List.append_nil, partition_of_not_mem outside]
    rfl
  | some port => exact partition_append outside _

/-! ### The network location -/

/-- A host and a port as a network location. -/
def netlocOf (host : List Char) (port : Option Nat) : List Char :=
  (if ':' ∈ host then '[' :: host ++ [']'] else host) ++ portText port

variable {host : List Char}

theorem netlocOf_plain (plain : ':' ∉ host) (port : Option Nat) :
    netlocOf host port = host ++ portText port := by
  unfold netlocOf
  rw [if_neg plain]

theorem netlocOf_bracketed (colon : ':' ∈ host) (port : Option Nat) :
    netlocOf host port = '[' :: (host ++ ']' :: portText port) := by
  unfold netlocOf
  rw [if_pos colon]
  simp

variable {port : Option Nat}

theorem mem_netlocOf (member : letter ∈ netlocOf host port) :
    letter ∈ host ∨ letter ∈ ['[', ']', ':'] ∨ isDigit letter = true := by
  have inPort : letter ∈ portText port → letter ∈ ['[', ']', ':'] ∨ isDigit letter = true := by
    intro inside
    cases port with
    | none => exact absurd inside List.not_mem_nil
    | some port =>
      rcases List.mem_cons.mp inside with rfl | digit
      · exact .inl (by decide)
      · exact .inr (isDigit_of_mem_port digit)
  by_cases colon : ':' ∈ host
  · rw [netlocOf_bracketed colon] at member
    rcases List.mem_cons.mp member with rfl | member
    · exact .inr (.inl (by decide))
    · rcases List.mem_append.mp member with inHost | member
      · exact .inl inHost
      · rcases List.mem_cons.mp member with rfl | member
        · exact .inr (.inl (by decide))
        · exact .inr (inPort member)
  · rw [netlocOf_plain colon] at member
    exact (List.mem_append.mp member).imp id inPort

theorem not_mem_netlocOf (outside : mark ∉ host)
    (noBracket : mark ∉ ['[', ']', ':']) (noDigit : isDigit mark = false) (port : Option Nat) :
    mark ∉ netlocOf host port := by
  intro member
  rcases mem_netlocOf member with inside | bracket | digit
  · exact outside inside
  · exact noBracket bracket
  · rw [digit] at noDigit
    cases noDigit

theorem isAscii_netlocOf (ascii : isAscii host = true) (port : Option Nat) :
    isAscii (netlocOf host port) = true := by
  refine isAscii_of_forall fun letter member => ?_
  rcases mem_netlocOf member with inside | mark | digit
  · exact forall_of_isAscii ascii letter inside
  · have marks : ∀ mark ∈ ['[', ']', ':'], mark.toNat < 0x80 :=
      List.all_iff_forall_prop.mp (by decide)
    exact marks letter mark
  · exact toNat_lt_of_isDigit digit

theorem rpartition_of_not_mem (outside : mark ∉ letters) :
    rpartition mark letters = ([], false, letters) := by
  unfold rpartition
  rw [partition_of_not_mem (mt List.mem_reverse.mp outside)]
  simp

theorem rpartition_found_iff (mark : Char) (letters : List Char) :
    (rpartition mark letters).2.1 = true ↔ mark ∈ letters := by
  by_cases member : mark ∈ letters
  · obtain ⟨before, after, split, outside⟩ :=
      List.eq_append_cons_of_mem (List.mem_reverse.mpr member)
    unfold rpartition
    rw [split, partition_append outside]
    exact iff_of_true rfl member
  · rw [rpartition_of_not_mem member]
    exact iff_of_false Bool.false_ne_true member

variable {parsed : SplitResult}

/-- What a network location without `@` says of its host and its port. -/
theorem hostinfo_of_bare (bare : '@' ∉ parsed.netloc) :
    parsed.hostinfo = if '[' ∈ parsed.netloc then
        ((partition ']' (partition '[' parsed.netloc).2.2).1,
          (partition ':' (partition ']' (partition '[' parsed.netloc).2.2).2.2).2.2)
      else ((partition ':' parsed.netloc).1, (partition ':' parsed.netloc).2.2) := by
  unfold SplitResult.hostinfo
  rw [rpartition_of_not_mem bare]
  dsimp only
  by_cases bracket : '[' ∈ parsed.netloc
  · obtain ⟨before, after, split, outside⟩ := List.eq_append_cons_of_mem bracket
    rw [if_pos bracket, split, partition_append outside, if_pos rfl]
  · rw [if_neg bracket, partition_of_not_mem bracket, if_neg Bool.false_ne_true]

theorem mem_of_mem_rpartition {mark letter : Char}
    (member : letter ∈ (rpartition mark letters).2.2) : letter ∈ letters := by
  unfold rpartition at member
  split at member
  · rename_i after before split
    have inside : letter ∈ (partition mark letters.reverse).1 :=
      split ▸ List.mem_reverse.mp member
    exact List.mem_reverse.mp (mem_of_mem_partition (.inl inside))
  · rename_i after before split
    have inside : letter ∈ (partition mark letters.reverse).1 :=
      split ▸ List.mem_reverse.mp member
    exact List.mem_reverse.mp (mem_of_mem_partition (.inl inside))

/-- The host is in the network location. -/
theorem mem_of_mem_hostinfo (member : letter ∈ parsed.hostinfo.1) : letter ∈ parsed.netloc := by
  unfold SplitResult.hostinfo at member
  dsimp only at member
  split at member
  · exact mem_of_mem_rpartition (mem_of_mem_partition (.inr (mem_of_mem_partition (.inl member))))
  · exact mem_of_mem_rpartition (mem_of_mem_partition (.inl member))

/-- A mark that is no small letter is in a text in lower case when it is in the text. -/
theorem mem_of_mem_lowered (noLetter : mark.toNat < 0x61)
    (member : mark ∈ letters.map lowerLetter) : mark ∈ letters := by
  obtain ⟨source, inside, lowered⟩ := List.mem_map.mp member
  unfold lowerLetter at lowered
  split at lowered
  · rename_i upper
    rw [← lowered, toNat_lowerLetter upper] at noLetter
    omega
  · exact lowered ▸ inside

theorem lowerLetter_netlocOf
    (fixed : ∀ letter ∈ host, lowerLetter letter = letter) (port : Option Nat) :
    ∀ letter ∈ netlocOf host port, lowerLetter letter = letter := by
  intro letter member
  rcases mem_netlocOf member with inside | mark | digit
  · exact fixed letter inside
  · have marks : ∀ mark ∈ ['[', ']', ':'], lowerLetter mark = mark :=
      List.all_iff_forall_prop.mp (by decide)
    exact marks letter mark
  · unfold isDigit at digit
    simp only [Bool.and_eq_true, decide_eq_true_eq] at digit
    unfold lowerLetter
    rw [if_neg (by omega)]

/-- A port that is read has only digits. -/
theorem digits_of_port (read : parsed.port = .ok port) :
    parsed.hostinfo.2.all isDigit = true := by
  unfold SplitResult.port at read
  split at read
  · rename_i empty
    rw [empty]
    rfl
  · split at read
    · rename_i digits
      exact digits
    · cases read

theorem port_le {port : Nat} (read : parsed.port = .ok (some port)) :
    port ≤ 65535 := by
  unfold SplitResult.port at read
  split at read
  · cases read
  · split at read
    · split at read
      · rename_i small
        cases read
        exact small
      · cases read
    · cases read

/-- A port is read as it was written. -/
theorem port_of_written (written : parsed.hostinfo.2 = (portText port).tail)
    (small : ∀ number, port = some number → number ≤ 65535) : parsed.port = .ok port := by
  unfold SplitResult.port
  rw [written]
  cases port with
  | none => rfl
  | some number =>
    have digits : (toString number).toList.all isDigit = true :=
      List.all_eq_true.mpr fun letter member => isDigit_of_mem_port member
    have fits := small number rfl
    unfold portText
    rw [List.tail_cons]
    split
    · rename_i empty
      rw [digits_port] at empty
      exact absurd empty Nat.toDigits_ne_nil
    · rw [if_pos digits, decimal_port, if_pos fits]

theorem addressText_inj {scheme : String} {first second : List Char}
    (same : addressText scheme first = addressText scheme second) : first = second := by
  unfold addressText at same
  have letters := List.append_cancel_left (String.ofList_injective same)
  simpa using letters

/-- A network location ends at the slash of the path. -/
theorem takeWhile_netloc {netloc rest : List Char}
    (inside : ∀ letter ∈ netloc, inNetloc letter = true) (rooted : rest.head? = some '/') :
    (netloc ++ rest).takeWhile inNetloc = netloc ∧ (netloc ++ rest).dropWhile inNetloc = rest := by
  obtain ⟨later, rfl⟩ := List.head?_eq_some_iff.mp rooted
  have slash : inNetloc '/' = false := by decide
  rw [List.takeWhile_append_of_pos inside, List.dropWhile_append_of_pos inside,
    List.takeWhile_cons, List.dropWhile_cons, slash]
  exact ⟨List.append_nil _, rfl⟩

/-- The parts an address was written from. -/
theorem partsOf_written (scheme : String) {netloc path query : List Char}
    (inside : ∀ letter ∈ netloc, inNetloc letter = true) (rooted : path.head? = some '/')
    (noQuestion : '?' ∉ path) (pathHash : '#' ∉ path) (queryHash : '#' ∉ query) :
    partsOf scheme (netloc ++ (path ++ marked '?' query)) = ⟨scheme, netloc, path, query, []⟩ := by
  have head : (path ++ marked '?' query).head? = some '/' := by
    rw [List.head?_append, rooted]
    rfl
  obtain ⟨taken, left⟩ := takeWhile_netloc inside head
  have noHash : '#' ∉ path ++ marked '?' query := fun member =>
    (List.mem_append.mp member).elim pathHash (not_mem_marked (by decide) queryHash)
  obtain ⟨first, second⟩ := partition_marked noQuestion query
  unfold partsOf
  dsimp only
  rw [taken, left, partition_of_not_mem noHash, first, second]

/-! ### Reading a host again -/

section

variable [HostTables] {host : List Char} {port : Option Nat}

/-- The brackets a host may have or get. -/
structure BracketsFit (host : List Char) : Prop where
  plain : ':' ∉ host → '[' ∉ host ∧ ']' ∉ host
  bracketed : ':' ∈ host → ']' ∉ host ∧ checkBracketedHost host = .ok ()

theorem bracket_mem_netlocOf (fit : BracketsFit host) (port : Option Nat) :
    ('[' ∈ netlocOf host port ↔ ':' ∈ host) ∧ (']' ∈ netlocOf host port ↔ ':' ∈ host) := by
  by_cases colon : ':' ∈ host
  · rw [netlocOf_bracketed colon]
    refine ⟨iff_of_true List.mem_cons_self colon, iff_of_true ?_ colon⟩
    exact List.mem_cons_of_mem _ (List.mem_append_right _ List.mem_cons_self)
  · obtain ⟨noOpen, noClose⟩ := fit.plain colon
    rw [netlocOf_plain colon]
    have outside : ∀ mark, mark ∉ host → isDigit mark = false → mark ≠ ':' →
        mark ∉ host ++ portText port := fun mark away noDigit noColon member =>
      (List.mem_append.mp member).elim away (not_mem_portText noDigit noColon port)
    exact ⟨iff_of_false (outside _ noOpen (by decide) (by decide)) colon,
      iff_of_false (outside _ noClose (by decide) (by decide)) colon⟩

/-- A host is read as it was written. -/
theorem hostinfo_netlocOf (fit : BracketsFit host) (bare : '@' ∉ host)
    (written : parsed.netloc = netlocOf host port) :
    parsed.hostinfo = (host, (portText port).tail) := by
  have noMark : '@' ∉ parsed.netloc :=
    written ▸ not_mem_netlocOf bare (by decide) (by decide) port
  obtain ⟨brackets, -⟩ := bracket_mem_netlocOf fit port
  rw [hostinfo_of_bare noMark, written]
  by_cases colon : ':' ∈ host
  · obtain ⟨noClose, -⟩ := fit.bracketed colon
    have before : partition '[' ('[' :: (host ++ ']' :: portText port)) =
        ([], true, host ++ ']' :: portText port) := partition_append List.not_mem_nil _
    have behind := partition_portText List.not_mem_nil port
    rw [List.nil_append] at behind
    rw [if_pos (brackets.mpr colon), netlocOf_bracketed colon, before, partition_append noClose,
      behind]
  · rw [if_neg (mt brackets.mp colon), netlocOf_plain colon, partition_portText colon]

theorem checkNetloc_of_isAscii {netloc : List Char} (ascii : isAscii netloc = true) :
    checkNetloc netloc = .ok () := if_pos (.inr ascii)

/-- The location that a host and a port make is one `urlsplit` lets pass. -/
theorem netlocOk_netlocOf (fit : BracketsFit host) (ascii : isAscii host = true)
    (bare : '@' ∉ host) (port : Option Nat) : NetlocOk (netlocOf host port) := by
  obtain ⟨opened, closed⟩ := bracket_mem_netlocOf fit port
  refine ⟨?_, fun bracket => ?_, checkNetloc_of_isAscii (isAscii_netlocOf ascii port)⟩
  · rw [Bool.eq_iff_iff, List.contains_iff_mem, List.contains_iff_mem, opened, closed]
  · have colon := opened.mp (List.contains_iff_mem.mp bracket)
    obtain ⟨noClose, checked⟩ := fit.bracketed colon
    have noMark : '@' ∉ netlocOf host port := not_mem_netlocOf bare (by decide) (by decide) port
    have before : partition '[' ('[' :: (host ++ ']' :: portText port)) =
        ([], true, host ++ ']' :: portText port) := partition_append List.not_mem_nil _
    unfold checkBracketedNetloc
    rw [rpartition_of_not_mem noMark]
    dsimp only
    rw [netlocOf_bracketed colon, before]
    dsimp only
    rw [if_pos rfl, if_neg (not_not.mpr rfl), partition_append noClose]
    dsimp only
    rw [if_neg, checked]
    rintro ⟨some, noColon⟩
    rcases portText_cases port with empty | leads
    · exact some empty
    · exact noColon leads

/-- What `urlsplit` checks of a location with brackets and without `@`. -/
theorem checkBracketedNetloc_ok {netloc : List Char} (bare : '@' ∉ netloc) (bracket : '[' ∈ netloc)
    (checked : checkBracketedNetloc netloc = .ok ()) :
    ∃ bracketed, netloc = '[' :: bracketed ∧ ((partition ']' bracketed).2.2 = [] ∨
        (partition ']' bracketed).2.2.head? = some ':') ∧
      checkBracketedHost (partition ']' bracketed).1 = .ok () := by
  obtain ⟨before, bracketed, rfl, outside⟩ := List.eq_append_cons_of_mem bracket
  unfold checkBracketedNetloc at checked
  rw [rpartition_of_not_mem bare] at checked
  dsimp only at checked
  rw [partition_append outside] at checked
  dsimp only at checked
  rw [if_pos rfl] at checked
  split at checked
  · cases checked
  · rename_i front
    split at checked
    · cases checked
    · rename_i behind
      obtain rfl := not_not.mp front
      refine ⟨bracketed, rfl, ?_, checked⟩
      by_cases empty : (partition ']' bracketed).2.2 = []
      · exact .inl empty
      · exact .inr (not_not.mp fun other => behind ⟨empty, other⟩)

/-- A host whose port is read has no closing bracket behind the colon it is bracketed for. -/
theorem closing_not_mem {other : Option Nat}
    (passed : NetlocOk (netlocOf host port)) (bare : '@' ∉ host)
    (written : parsed.netloc = netlocOf host port) (answered : parsed.port = .ok other)
    (colon : ':' ∈ host) : ']' ∉ host := by
  have noMark : '@' ∉ netlocOf host port := not_mem_netlocOf bare (by decide) (by decide) port
  have digits := digits_of_port answered
  rw [hostinfo_of_bare (written ▸ noMark), written] at digits
  have bracket : '[' ∈ netlocOf host port := by
    rw [netlocOf_bracketed colon]
    exact List.mem_cons_self
  obtain ⟨bracketed, split, tail, -⟩ := checkBracketedNetloc_ok noMark bracket
    (passed.2.1 (List.contains_iff_mem.mpr bracket))
  rw [netlocOf_bracketed colon] at split
  obtain rfl := (List.cons.inj split).2
  have found : partition '[' ('[' :: (host ++ ']' :: portText port)) =
      ([], true, host ++ ']' :: portText port) := partition_append List.not_mem_nil _
  intro inside
  obtain ⟨front, behind, rfl, outside⟩ := List.eq_append_cons_of_mem inside
  rw [if_pos bracket, netlocOf_bracketed colon, found, List.append_assoc, List.cons_append,
    partition_append outside] at digits
  rw [List.append_assoc, List.cons_append, partition_append outside] at tail
  dsimp only at digits tail
  have last : ']' ∈ behind ++ ']' :: portText port :=
    List.mem_append_right _ List.mem_cons_self
  rcases tail with empty | leads
  · rw [empty] at last
    exact List.not_mem_nil last
  · obtain ⟨later, split⟩ := List.head?_eq_some_iff.mp leads
    have parted : partition ':' (':' :: later) = ([], true, later) :=
      partition_append List.not_mem_nil _
    rw [split, parted] at digits
    rw [split] at last
    have inPort := (List.mem_cons.mp last).resolve_left (by decide)
    have digit := List.all_eq_true.mp digits _ inPort
    exact absurd digit (by decide)

/-- A location that is let pass and has no closing bracket in its host has the brackets it
needs. -/
theorem bracketsFit_of_noClose (noClose : ']' ∉ host) (passed : NetlocOk (netlocOf host port))
    (bare : '@' ∉ host) : BracketsFit host := by
  have noMark : '@' ∉ netlocOf host port := not_mem_netlocOf bare (by decide) (by decide) port
  obtain ⟨balanced, bracketsChecked, -⟩ := passed
  refine ⟨fun plain => ⟨fun opened => ?_, noClose⟩, fun colon => ⟨noClose, ?_⟩⟩
  · rw [netlocOf_plain plain] at balanced
    have inside : '[' ∈ host ++ portText port := List.mem_append_left _ opened
    rw [List.contains_iff_mem.mpr inside] at balanced
    rcases List.mem_append.mp (List.contains_iff_mem.mp balanced.symm) with closed | inPort
    · exact noClose closed
    · exact not_mem_portText (by decide) (by decide) port inPort
  · have bracket : '[' ∈ netlocOf host port := by
      rw [netlocOf_bracketed colon]
      exact List.mem_cons_self
    obtain ⟨bracketed, split, -, checked⟩ := checkBracketedNetloc_ok noMark bracket
      (bracketsChecked (List.contains_iff_mem.mpr bracket))
    rw [netlocOf_bracketed colon] at split
    obtain rfl := (List.cons.inj split).2
    rw [partition_append noClose] at checked
    exact checked

/-- A host that is read as it was written has the brackets it needs. -/
theorem bracketsFit_of_again {again : List Char} {other number : Option Nat}
    (passed : NetlocOk (netlocOf host port)) (bare : '@' ∉ host)
    (written : parsed.netloc = netlocOf host port) (read : parsed.hostinfo.1 = again)
    (solid : again ≠ []) (answered : parsed.port = .ok other)
    (same : netlocOf again number = netlocOf host port) : BracketsFit host := by
  have noMark : '@' ∉ netlocOf host port := not_mem_netlocOf bare (by decide) (by decide) port
  refine bracketsFit_of_noClose (fun closed => ?_) passed bare
  by_cases colon : ':' ∈ host
  · exact closing_not_mem passed bare written answered colon closed
  · -- The closing bracket has an opening one, and the host that is read is between them.
    have inside : ']' ∈ netlocOf host port := by
      rw [netlocOf_plain colon]
      exact List.mem_append_left _ closed
    have bracket : '[' ∈ netlocOf host port :=
      List.contains_iff_mem.mp (passed.1.trans (List.contains_iff_mem.mpr inside))
    obtain ⟨bracketed, split, -, checked⟩ := checkBracketedNetloc_ok noMark bracket
      (passed.2.1 (List.contains_iff_mem.mpr bracket))
    have found : partition '[' ('[' :: bracketed) = ([], true, bracketed) :=
      partition_append List.not_mem_nil _
    rw [hostinfo_of_bare (written ▸ noMark), written, if_pos bracket, split, found] at read
    rw [read] at checked
    by_cases inner : ':' ∈ again
    · -- The colon of the host is not the one of the port: a bracket comes after it.
      obtain ⟨front, behind, rfl, outside⟩ := List.eq_append_cons_of_mem inner
      have whole := partition_portText colon port
      rw [← netlocOf_plain colon, ← same, netlocOf_bracketed inner, List.append_assoc,
        List.cons_append, ← List.cons_append, partition_append] at whole
      · have tail := (Prod.mk.inj (Prod.mk.inj whole).2).2
        have member : ']' ∈ (portText port).tail :=
          tail ▸ List.mem_append_right _ List.mem_cons_self
        exact not_mem_portText (by decide) (by decide) port (List.mem_of_mem_tail member)
      · intro member
        rcases List.mem_cons.mp member with mark | member
        · exact absurd mark (by decide)
        · exact outside member
    · rw [netlocOf_plain inner, split] at same
      obtain ⟨first, rest, rfl⟩ := List.exists_cons_of_ne_nil solid
      obtain rfl : first = '[' := (List.cons.inj same).1
      unfold checkBracketedHost at checked
      split at checked
      · rename_i future
        cases future
      · split at checked
        · rename_i address
          have marked := HostTables.ipv6_colon _ address
          rw [String.toList_ofList] at marked
          exact inner marked
        · cases checked

/-! ### Lower case -/

theorem lower_ofList (ascii : isAscii letters = true)
    (fixed : ∀ letter ∈ letters, lowerLetter letter = letter) :
    TextTables.lower (String.ofList letters) = String.ofList letters := by
  rw [HostTables.lower_ascii _ ascii, List.map_congr_left fixed, List.map_id']

/-- The host of a location that is ASCII in lower case. -/
theorem hostname_of_hostinfo {again : List Char}
    (read : parsed.hostinfo.1 = again) (solid : again ≠ []) (ascii : isAscii again = true)
    (fixed : ∀ letter ∈ again, lowerLetter letter = letter) :
    parsed.hostname = some (String.ofList again) := by
  obtain ⟨-, whole, -⟩ := partition_eq '%' again
  have inside : ∀ letter ∈ (partition '%' again).1, letter ∈ again :=
    fun letter member => mem_of_mem_partition (.inl member)
  have name : TextTables.lower (String.ofList (partition '%' again).1) =
      String.ofList (partition '%' again).1 :=
    lower_ofList (isAscii_of_forall fun letter member =>
      forall_of_isAscii ascii letter (inside letter member)) fun letter member =>
        fixed letter (inside letter member)
  unfold SplitResult.hostname
  rw [read]
  split
  · exact absurd rfl solid
  · dsimp only
    rw [name]
    conv_rhs => rw [whole, String.ofList_append]

/-- What is in lower case and has labels that fit is its own host in IDNA. -/
theorem idna_self_iff (ascii : isAscii letters = true) (encoded : String) :
    TextTables.idna (String.ofList letters) = some encoded ↔
      labelsFit letters = true ∧ encoded = String.ofList letters := by
  rw [HostTables.idna_ascii _ ascii]
  by_cases fits : labelsFit letters = true
  · rw [if_pos fits, Option.some.injEq, eq_comm]
    exact (and_iff_right fits).symm
  · rw [if_neg fits]
    exact iff_of_false nofun fun both => fits both.1

/-- A host in IDNA and in lower case. -/
theorem lower_idna {name encoded : String} (read : TextTables.idna name = some encoded) :
    isAscii (TextTables.lower encoded).toList = true ∧
      ∀ letter ∈ (TextTables.lower encoded).toList, lowerLetter letter = letter := by
  have ascii := HostTables.ascii_idna name encoded read
  have lowered : (TextTables.lower encoded).toList = encoded.toList.map lowerLetter := by
    rw [← String.ofList_toList (s := encoded), HostTables.lower_ascii _ ascii,
      String.toList_ofList, String.toList_ofList]
  rw [lowered]
  refine ⟨isAscii_of_forall fun letter member => ?_, fun letter member => ?_⟩
  · obtain ⟨source, inside, rfl⟩ := List.mem_map.mp member
    have low := forall_of_isAscii ascii source inside
    unfold lowerLetter
    split
    · rename_i upper
      rw [toNat_lowerLetter upper]
      omega
    · exact low
  · obtain ⟨source, -, rfl⟩ := List.mem_map.mp member
    exact lowerLetter_lowerLetter source

theorem mem_of_mem_lower {encoded : String} (ascii : isAscii encoded.toList = true)
    (noLetter : mark.toNat < 0x61) (member : mark ∈ (TextTables.lower encoded).toList) :
    mark ∈ encoded.toList := by
  rw [← String.ofList_toList (s := encoded), HostTables.lower_ascii _ ascii,
    String.toList_ofList] at member
  exact mem_of_mem_lowered noLetter member

end

end Url

open Url in
/-- The tables on ASCII text: what is no ASCII has no lower case and no IDNA, and every text with a
colon is an IPv6 address. -/
@[reducible] def HostTables.ascii : HostTables where
  lower text := String.ofList (text.toList.map lowerLetter)
  lower_lower text := by
    rw [String.toList_ofList, List.map_map]
    exact congrArg String.ofList (List.map_congr_left fun letter _ =>
      lowerLetter_lowerLetter letter)
  nfkc := id
  idna text := if isAscii text.toList ∧ labelsFit text.toList then some text else none
  isIpv6 text := text.toList.contains ':'
  lower_ascii letters _ := by rw [String.toList_ofList]
  idna_ascii letters low := by
    rw [String.toList_ofList]
    exact if_congr (and_iff_right low) rfl rfl
  ascii_idna text encoded read := by
    split at read
    · rename_i both
      obtain rfl := Option.some.inj read
      exact both.1
    · cases read
  ipv6_colon text address := List.contains_iff_mem.mp address
  idna_checked parsed name encoded _ named read mark known member := by
    have marks : ∀ mark ∈ ['/', '?', '#', '@'], mark.toNat < 0x61 :=
      List.all_iff_forall_prop.mp (by decide)
    split at read
    · obtain rfl := Option.some.inj read
      unfold SplitResult.hostname at named
      split at named
      · cases named
      · rename_i host solid
        obtain ⟨-, whole, -⟩ := partition_eq '%' parsed.hostinfo.1
        have here := Option.some.inj named
        refine mem_of_mem_hostinfo ?_
        rw [whole]
        rw [← here, String.toList_append, String.toList_ofList] at member
        rcases List.mem_append.mp member with name | zone
        · change mark ∈ (String.ofList ((String.ofList _).toList.map lowerLetter)).toList at name
          rw [String.toList_ofList, String.toList_ofList] at name
          exact List.mem_append_left _ (mem_of_mem_lowered (marks mark known) name)
        · exact List.mem_append_right _ zone
    · cases read

end CareerOS
