/-
This file is `urlsplit(text).geturl()` on any text: the parts of an address and the
address they make again. The parts come back as they were, since no part holds the mark
that ends it; only an empty query or fragment loses its mark. So an address that is made
of parts is made of the same parts again, as long as nothing is stripped from it first.
-/

import CareerOS.Library.Outcome
import CareerOS.Library.Url

namespace CareerOS

namespace Url

/-- What `urlsplit` removes before it splits: control characters and blanks in front, tabs and
line ends anywhere. -/
def cleaned (letters : List Char) : List Char :=
  (letters.dropWhile fun letter => letter.toNat ≤ 0x20).filter fun letter =>
    !(['\t', '\r', '\n'].contains letter)

/-- `urlsplit(text)` of any text. -/
def urlsplitText [TextTables] (text : String) : Except String SplitResult :=
  urlsplit (String.ofList (cleaned text.toList))

namespace SplitResult

/-- `.geturl()`, for a network location that is not empty. -/
def geturl (parsed : SplitResult) : String :=
  urlunsplit parsed.scheme parsed.netloc parsed.path parsed.query ++
    String.ofList (if parsed.fragment = [] then [] else '#' :: parsed.fragment)

end SplitResult

/-! ### Parts -/

theorem partition_eq (mark : Char) (letters : List Char) :
    (partition mark letters).1 = letters.takeWhile (fun letter => letter ≠ mark) ∧
      letters = (partition mark letters).1 ++
        (if (partition mark letters).2.1 then mark :: (partition mark letters).2.2 else []) ∧
      ((partition mark letters).2.1 = false → (partition mark letters).2.2 = []) := by
  induction letters with
  | nil => exact ⟨rfl, rfl, fun _ => rfl⟩
  | cons letter rest inductionHypothesis =>
    unfold partition
    by_cases same : letter = mark
    · subst same
      rw [if_pos rfl]
      refine ⟨?_, rfl, fun found => by cases found⟩
      rw [List.takeWhile_cons, if_neg (by simp)]
    · rw [if_neg same]
      obtain ⟨taken, whole, absent⟩ := inductionHypothesis
      dsimp only
      refine ⟨?_, ?_, absent⟩
      · rw [List.takeWhile_cons, if_pos (by simpa using same), taken]
      · rw [List.cons_append, ← whole]

theorem not_mem_partition (mark : Char) (letters : List Char) :
    mark ∉ (partition mark letters).1 := by
  rw [(partition_eq mark letters).1]
  intro member
  have kept := List.mem_takeWhile_imp member
  simp at kept

theorem mem_of_mem_partition {mark letter : Char} {letters : List Char}
    (member : letter ∈ (partition mark letters).1 ∨ letter ∈ (partition mark letters).2.2) :
    letter ∈ letters := by
  obtain ⟨-, whole, absent⟩ := partition_eq mark letters
  rw [whole, List.mem_append]
  rcases member with before | after
  · exact .inl before
  · right
    split
    · exact List.mem_cons_of_mem _ after
    · rename_i missing
      rw [absent ((Bool.not_eq_true _).mp missing)] at after
      exact absurd after List.not_mem_nil

/-- Splitting at a mark that the first part does not hold. -/
theorem partition_append {mark : Char} {before : List Char} (outside : mark ∉ before)
    (after : List Char) : partition mark (before ++ mark :: after) = (before, true, after) := by
  induction before with
  | nil => simp [partition]
  | cons letter rest inductionHypothesis =>
    obtain ⟨different, later⟩ := not_or.mp (mt List.mem_cons.mpr outside)
    rw [List.cons_append]
    unfold partition
    rw [if_neg (Ne.symm different), inductionHypothesis later]

theorem partition_of_not_mem {mark : Char} {letters : List Char} (outside : mark ∉ letters) :
    partition mark letters = (letters, false, []) := by
  induction letters with
  | nil => rfl
  | cons letter rest inductionHypothesis =>
    obtain ⟨different, later⟩ := not_or.mp (mt List.mem_cons.mpr outside)
    unfold partition
    rw [if_neg (Ne.symm different), inductionHypothesis later]

/-- A part that is left out where it is empty, with its mark. -/
def marked (mark : Char) (part : List Char) : List Char := if part = [] then [] else mark :: part

theorem partition_marked {mark : Char} {before : List Char} (outside : mark ∉ before)
    (part : List Char) :
    (partition mark (before ++ marked mark part)).1 = before ∧
      (partition mark (before ++ marked mark part)).2.2 = part := by
  unfold marked
  split
  · rename_i empty
    rw [List.append_nil, partition_of_not_mem outside, empty]
    exact ⟨rfl, rfl⟩
  · rw [partition_append outside]
    exact ⟨rfl, rfl⟩

/-! ### The network location -/

/-- The letters of a network location: up to the path, the query or the fragment. -/
def inNetloc (letter : Char) : Bool := !(['/', '?', '#'].contains letter)

/-- The parts behind `scheme://`. -/
def partsOf (scheme : String) (rest : List Char) : SplitResult :=
  let tail := rest.dropWhile inNetloc
  ⟨scheme, rest.takeWhile inNetloc, (partition '?' (partition '#' tail).1).1,
    (partition '?' (partition '#' tail).1).2.2, (partition '#' tail).2.2⟩

/-- A text that starts with such a scheme in front of a network location. -/
def addressText (scheme : String) (rest : List Char) : String :=
  String.ofList (scheme.toList ++ ':' :: '/' :: '/' :: rest)

theorem splitNetloc_slashes (rest : List Char) :
    splitNetloc ('/' :: '/' :: rest) = (rest.takeWhile inNetloc, rest.dropWhile inNetloc) := by
  unfold splitNetloc inNetloc
  exact List.span_eq_takeWhile_dropWhile _ _

/-- The path of an address is empty or starts with a slash. -/
theorem path_partsOf (scheme : String) (rest : List Char) :
    (partsOf scheme rest).path = [] ∨ (partsOf scheme rest).path.head? = some '/' := by
  unfold partsOf
  dsimp only
  cases tail : rest.dropWhile inNetloc with
  | nil => exact .inl rfl
  | cons letter later =>
    have outside : inNetloc letter = false := by
      have head := List.head?_dropWhile_not inNetloc rest
      rw [tail] at head
      simpa using head
    have mark : letter = '/' ∨ letter = '?' ∨ letter = '#' := by
      unfold inNetloc at outside
      rw [Bool.not_eq_false', List.contains_iff_mem] at outside
      simpa only [List.mem_cons, List.not_mem_nil, or_false] using outside
    rcases mark with rfl | rfl | rfl
    · right
      simp [partition]
    · left
      simp [partition]
    · left
      simp [partition]

/-- What is behind the network location, as the parts make it. -/
def tailOf (parsed : SplitResult) : List Char :=
  parsed.path ++ marked '?' parsed.query ++ marked '#' parsed.fragment

theorem not_mem_marked {mark letter : Char} {part : List Char} (other : letter ≠ mark)
    (outside : letter ∉ part) : letter ∉ marked mark part := by
  unfold marked
  split
  · exact List.not_mem_nil
  · exact fun member => (List.mem_cons.mp member).elim other outside

theorem length_partition_le (mark : Char) (letters : List Char) :
    (partition mark letters).1.length + (marked mark (partition mark letters).2.2).length ≤
      letters.length := by
  obtain ⟨-, whole, absent⟩ := partition_eq mark letters
  conv_rhs => rw [whole, List.length_append]
  refine Nat.add_le_add_left ?_ _
  unfold marked
  split
  · exact Nat.zero_le _
  · rename_i solid
    split
    · exact Nat.le_refl _
    · rename_i missing
      exact absurd (absent ((Bool.not_eq_true _).mp missing)) solid

/-- The parts never make a longer text. -/
theorem length_tailOf_le (scheme : String) (rest : List Char) :
    (rest.takeWhile inNetloc ++ tailOf (partsOf scheme rest)).length ≤ rest.length := by
  have outer := length_partition_le '#' (rest.dropWhile inNetloc)
  have inner := length_partition_le '?' (partition '#' (rest.dropWhile inNetloc)).1
  have whole : (rest.takeWhile inNetloc).length + (rest.dropWhile inNetloc).length =
      rest.length := by
    rw [← List.length_append, List.takeWhile_append_dropWhile]
  unfold tailOf partsOf
  dsimp only
  rw [List.length_append, List.length_append, List.length_append]
  omega

section

variable [TextTables]

/-- The checks of `urlsplit`. -/
def NetlocOk (netloc : List Char) : Prop :=
  netloc.contains '[' = netloc.contains ']' ∧
    (netloc.contains '[' = true → checkBracketedNetloc netloc = .ok ()) ∧
      checkNetloc netloc = .ok ()

theorem splitScheme_web {scheme : String} (web : scheme ∈ ["http", "https"])
    (lower : TextTables.lower scheme = scheme) (url : List Char) :
    splitScheme (scheme.toList ++ ':' :: url) = (scheme, url) := by
  have plain : ':' ∉ scheme.toList ∧ ∃ first rest, scheme.toList = first :: rest ∧
      isAlpha first = true ∧ (first :: rest).all isSchemeChar = true := by
    rcases List.mem_cons.mp web with rfl | other
    · exact ⟨by decide, 'h', ['t', 't', 'p'], by decide, by decide, by decide⟩
    · obtain rfl := List.mem_singleton.mp other
      exact ⟨by decide, 'h', ['t', 't', 'p', 's'], by decide, by decide, by decide⟩
  obtain ⟨outside, first, rest, letters, alpha, all⟩ := plain
  unfold splitScheme
  rw [partition_append outside, letters]
  dsimp only
  rw [if_pos ⟨alpha, all⟩, ← letters, String.ofList_toList, lower]

theorem urlsplit_of_splitScheme {text scheme : String} {rest : List Char}
    (split : splitScheme text.toList = (scheme, '/' :: '/' :: rest)) (parsed : SplitResult) :
    urlsplit text = .ok parsed ↔
      NetlocOk (rest.takeWhile inNetloc) ∧ parsed = partsOf scheme rest := by
  unfold urlsplit NetlocOk partsOf
  have slashes : ('/' :: '/' :: rest).take 2 = ['/', '/'] := rfl
  rw [split]
  dsimp only
  rw [if_pos slashes, splitNetloc_slashes]
  dsimp only
  by_cases brackets : (rest.takeWhile inNetloc).contains '[' =
      (rest.takeWhile inNetloc).contains ']'
  · rw [if_neg (not_not.mpr brackets)]
    cases bracketed : (rest.takeWhile inNetloc).contains '[' with
    | false =>
      rw [if_neg Bool.false_ne_true]
      cases checked : checkNetloc (rest.takeWhile inNetloc) with
      | error problem =>
        refine ⟨fun parsed => ?_, fun holds => ?_⟩
        · cases parsed
        · cases holds.1.2.2
      | ok _ =>
        refine ⟨fun same => ⟨⟨bracketed ▸ brackets, nofun, rfl⟩, (Except.ok.inj same).symm⟩,
          fun holds => congrArg Except.ok holds.2.symm⟩
    | true =>
      rw [if_pos rfl]
      cases inside : checkBracketedNetloc (rest.takeWhile inNetloc) with
      | error problem =>
        refine ⟨fun parsed => ?_, fun holds => ?_⟩
        · cases parsed
        · cases holds.1.2.1 rfl
      | ok _ =>
        cases checked : checkNetloc (rest.takeWhile inNetloc) with
        | error problem =>
          refine ⟨fun parsed => ?_, fun holds => ?_⟩
          · cases parsed
          · cases holds.1.2.2
        | ok _ =>
          refine ⟨fun same => ⟨⟨bracketed ▸ brackets, fun _ => rfl, rfl⟩,
            (Except.ok.inj same).symm⟩, fun holds => congrArg Except.ok holds.2.symm⟩
  · rw [if_pos brackets]
    refine ⟨fun parsed => ?_, fun holds => absurd holds.1.1 brackets⟩
    cases parsed

theorem urlsplit_addressText {scheme : String} (web : scheme ∈ ["http", "https"])
    (lower : TextTables.lower scheme = scheme) (rest : List Char) (parsed : SplitResult) :
    urlsplit (addressText scheme rest) = .ok parsed ↔
      NetlocOk (rest.takeWhile inNetloc) ∧ parsed = partsOf scheme rest := by
  refine urlsplit_of_splitScheme ?_ parsed
  unfold addressText
  rw [String.toList_ofList]
  exact splitScheme_web web lower _

theorem splitScheme_spec (letters : List Char) :
    (∀ letter ∈ (splitScheme letters).2, letter ∈ letters) ∧
      ((splitScheme letters).1 = "" ∨
        TextTables.lower (splitScheme letters).1 = (splitScheme letters).1) := by
  unfold splitScheme
  split
  · rename_i first rest after split
    split
    · refine ⟨fun letter member => ?_, .inr (TextTables.lower_lower _)⟩
      have behind : letter ∈ (partition ':' letters).2.2 := split ▸ member
      exact mem_of_mem_partition (.inr behind)
    · exact ⟨fun _ member => member, .inl rfl⟩
  · exact ⟨fun _ member => member, .inl rfl⟩

theorem scheme_of_urlsplit {text : String} {parsed : SplitResult}
    (split : urlsplit text = .ok parsed) : parsed.scheme = (splitScheme text.toList).1 := by
  unfold urlsplit at split
  cases found : splitScheme text.toList with
  | mk scheme url =>
    rw [found] at split
    dsimp only at split
    generalize (if url.take 2 = ['/', '/'] then splitNetloc url else ([], url)) = located at split
    obtain ⟨netloc, behind⟩ := located
    dsimp only at split
    split at split
    · cases split
    · split at split
      · obtain ⟨_, -, split⟩ := bind_ok_iff.mp split
        obtain ⟨_, -, split⟩ := bind_ok_iff.mp split
        rw [← Except.ok.inj split]
      · obtain ⟨_, -, split⟩ := bind_ok_iff.mp split
        rw [← Except.ok.inj split]

/-- An address with a network location is made of its parts. -/
theorem urlsplit_web {text : String} {parsed : SplitResult} (split : urlsplit text = .ok parsed)
    (web : parsed.scheme ∈ ["http", "https"]) (named : parsed.netloc ≠ []) :
    TextTables.lower parsed.scheme = parsed.scheme ∧
      ∃ rest, splitScheme text.toList = (parsed.scheme, '/' :: '/' :: rest) ∧
        NetlocOk (rest.takeWhile inNetloc) ∧ parsed = partsOf parsed.scheme rest := by
  obtain ⟨-, lower⟩ := splitScheme_spec text.toList
  cases found : splitScheme text.toList with
  | mk scheme url =>
    rw [found] at lower
    dsimp only at lower
    by_cases slashes : url.take 2 = ['/', '/']
    · obtain ⟨rest, rfl⟩ : ∃ rest, url = '/' :: '/' :: rest := by
        refine ⟨url.drop 2, ?_⟩
        conv_lhs => rw [← List.take_append_drop 2 url, slashes]
        rfl
      obtain ⟨netloc, same⟩ := (urlsplit_of_splitScheme found parsed).mp split
      have scheme_ : parsed.scheme = scheme := same ▸ rfl
      rw [scheme_] at web ⊢
      refine ⟨?_, rest, rfl, netloc, same⟩
      rcases lower with empty | fixed
      · rw [empty] at web
        exact absurd web (by decide)
      · exact fixed
    · refine absurd ?_ named
      unfold urlsplit at split
      rw [found] at split
      dsimp only at split
      rw [if_neg slashes] at split
      dsimp only at split
      obtain ⟨_, -, split⟩ := bind_ok_iff.mp split
      rw [← Except.ok.inj split]

end

/-! ### Stripping an address -/

theorem strip_addressText {scheme : String} (web : scheme ∈ ["http", "https"])
    (rest : List Char) :
    Text.strip (addressText scheme rest) = addressText scheme (rest.rdropWhile Text.isSpace) := by
  have plain : ∃ first later, scheme.toList = first :: later ∧ Text.isSpace first = false := by
    rcases List.mem_cons.mp web with rfl | other
    · exact ⟨'h', ['t', 't', 'p'], by decide, by decide⟩
    · obtain rfl := List.mem_singleton.mp other
      exact ⟨'h', ['t', 't', 'p', 's'], by decide, by decide⟩
  obtain ⟨first, later, letters, shown⟩ := plain
  have slash : Text.isSpace '/' = false := by decide
  unfold Text.strip Text.stripList addressText
  rw [String.toList_ofList]
  have front : (scheme.toList ++ ':' :: '/' :: '/' :: rest).dropWhile Text.isSpace =
      (scheme.toList ++ [':', '/']) ++ '/' :: rest := by
    rw [letters, List.cons_append, List.dropWhile_cons, shown]
    simp
  rw [front, Text.rdropWhile_append slash]
  simp

theorem length_addressText (scheme : String) (rest : List Char) :
    (addressText scheme rest).length = scheme.length + 3 + rest.length := by
  unfold addressText
  rw [← String.length_toList, String.toList_ofList, List.length_append, List.length_cons,
    List.length_cons, List.length_cons, String.length_toList]
  omega

end Url

end CareerOS
