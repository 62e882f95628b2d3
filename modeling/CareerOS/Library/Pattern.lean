/-
This file is the part of regular expressions that the program's patterns use: a
backtracking matcher, which lists what is left of the text after each way to
match, in the order in which they are tried, and the words of a pattern. The
matcher leaves exactly the texts that follow a word.
-/

import Mathlib

namespace CareerOS

/-- The Unicode tables behind `\w` and `\d`. -/
class WordTables where
  isWord : Char → Bool
  isDecimal : Char → Bool
  isWord_of_isDecimal : ∀ letter, isDecimal letter = true → isWord letter = true
  isWord_ascii : ∀ letter : Char, letter.val < 128 →
    isWord letter = (letter.isAlphanum || letter == '_')
  isDecimal_ascii : ∀ letter : Char, letter.val < 128 → isDecimal letter = letter.isDigit

/-- The tables on ASCII text. -/
@[reducible] def WordTables.ascii : WordTables where
  isWord letter := letter.isAlphanum || letter == '_'
  isDecimal letter := letter.isDigit
  isWord_of_isDecimal letter digit := by
    rw [Char.isAlphanum, digit, Bool.or_true, Bool.true_or]
  isWord_ascii _ _ := rfl
  isDecimal_ascii _ _ := rfl

/-- A pattern. A repetition is greedy. -/
inductive Pattern
  /-- `[kind]` -/
  | one (kind : Char → Bool)
  | andThen (first second : Pattern)
  /-- `first|second` -/
  | orElse (first second : Pattern)
  /-- `[kind]*` -/
  | many (kind : Char → Bool)
  /-- `body{0,count}` -/
  | upTo (count : Nat) (body : Pattern)

namespace Pattern

/-- `body{least,least+extra}`. -/
def between (least extra : Nat) (body : Pattern) : Pattern :=
  match least with
  | 0 => .upTo extra body
  | least + 1 => .andThen body (between least extra body)

/-! ### The matcher -/

/-- What `[kind]*` leaves of a text: the longest match first. -/
def manyRun (kind : Char → Bool) : List Char → List (List Char)
  | [] => [[]]
  | letter :: rest =>
    if kind letter then manyRun kind rest ++ [letter :: rest] else [letter :: rest]

/-- What at most so many steps leave of a text: as many as possible first. -/
def upToRun (step : List Char → List (List Char)) : Nat → List Char → List (List Char)
  | 0, text => [text]
  | count + 1, text => (step text).flatMap (upToRun step count) ++ [text]

/-- What a pattern leaves of a text, for each way to match it, in the order of the search. -/
def run : Pattern → List Char → List (List Char)
  | .one kind, text =>
    match text with
    | [] => []
    | letter :: rest => if kind letter then [rest] else []
  | .andThen first second, text => (run first text).flatMap (run second)
  | .orElse first second, text => run first text ++ run second text
  | .many kind, text => manyRun kind text
  | .upTo count body, text => upToRun (run body) count text

/-! ### The words -/

/-- The words of a pattern. -/
inductive Matches : Pattern → List Char → Prop
  | one {kind : Char → Bool} {letter : Char} (among : kind letter = true) :
      Matches (.one kind) [letter]
  | andThen {first second : Pattern} {here there : List Char} (head : Matches first here)
      (tail : Matches second there) : Matches (.andThen first second) (here ++ there)
  | left {first second : Pattern} {word : List Char} (matched : Matches first word) :
      Matches (.orElse first second) word
  | right {first second : Pattern} {word : List Char} (matched : Matches second word) :
      Matches (.orElse first second) word
  | many {kind : Char → Bool} {word : List Char}
      (among : ∀ letter ∈ word, kind letter = true) : Matches (.many kind) word
  | stop {count : Nat} {body : Pattern} : Matches (.upTo count body) []
  | again {count : Nat} {body : Pattern} {here there : List Char} (head : Matches body here)
      (tail : Matches (.upTo count body) there) : Matches (.upTo (count + 1) body) (here ++ there)

variable {kind : Char → Bool}

theorem mem_manyRun_iff {text rest : List Char} :
    rest ∈ manyRun kind text ↔
      ∃ word, text = word ++ rest ∧ ∀ letter ∈ word, kind letter = true := by
  induction text with
  | nil =>
    unfold manyRun
    rw [List.mem_singleton]
    constructor
    · rintro rfl
      exact ⟨[], rfl, nofun⟩
    · rintro ⟨word, empty, -⟩
      exact (List.append_eq_nil_iff.mp empty.symm).2
  | cons letter text inductionHypothesis =>
    have stop : rest = letter :: text → ∃ word, letter :: text = word ++ rest ∧
        ∀ letter ∈ word, kind letter = true := by
      rintro rfl
      exact ⟨[], rfl, nofun⟩
    unfold manyRun
    split
    · rename_i among
      rw [List.mem_append, List.mem_singleton, inductionHypothesis]
      constructor
      · rintro (⟨word, rfl, all⟩ | whole)
        · exact ⟨letter :: word, rfl, List.forall_mem_cons.mpr ⟨among, all⟩⟩
        · exact stop whole
      · rintro ⟨word, split, all⟩
        cases word with
        | nil => exact .inr split.symm
        | cons first word =>
          obtain ⟨rfl, rfl⟩ := List.cons.inj split
          exact .inl ⟨word, rfl, (List.forall_mem_cons.mp all).2⟩
    · rename_i other
      rw [List.mem_singleton]
      refine ⟨stop, ?_⟩
      rintro ⟨word, split, all⟩
      cases word with
      | nil => exact split.symm
      | cons first word =>
        obtain ⟨rfl, -⟩ := List.cons.inj split
        exact absurd (all _ List.mem_cons_self) other

variable {body : Pattern}

/-- The steps of a repetition leave what follows a word of it. -/
theorem mem_upToRun_iff
    (step : ∀ text rest, rest ∈ run body text ↔ ∃ word, text = word ++ rest ∧ Matches body word)
    (count : Nat) (text rest : List Char) :
    rest ∈ upToRun (run body) count text ↔
      ∃ word, text = word ++ rest ∧ Matches (.upTo count body) word := by
  induction count generalizing text with
  | zero =>
    unfold upToRun
    rw [List.mem_singleton]
    constructor
    · rintro rfl
      exact ⟨[], rfl, .stop⟩
    · rintro ⟨word, rfl, matched⟩
      cases matched
      rfl
  | succ count inductionHypothesis =>
    unfold upToRun
    rw [List.mem_append, List.mem_flatMap, List.mem_singleton]
    constructor
    · rintro (⟨left, stepped, inside⟩ | rfl)
      · obtain ⟨here, rfl, head⟩ := (step text left).mp stepped
        obtain ⟨there, rfl, tail⟩ := (inductionHypothesis left).mp inside
        exact ⟨here ++ there, (List.append_assoc _ _ _).symm, .again head tail⟩
      · exact ⟨[], rfl, .stop⟩
    · rintro ⟨word, rfl, matched⟩
      cases matched with
      | stop => exact .inr rfl
      | again head tail =>
        refine .inl ⟨_, (step _ _).mpr ⟨_, List.append_assoc _ _ _, head⟩, ?_⟩
        exact (inductionHypothesis _).mpr ⟨_, rfl, tail⟩

/-- The matcher leaves exactly the texts that follow a word of the pattern. -/
theorem mem_run_iff (pattern : Pattern) (text rest : List Char) :
    rest ∈ run pattern text ↔ ∃ word, text = word ++ rest ∧ Matches pattern word := by
  induction pattern generalizing text rest with
  | one kind =>
    cases text with
    | nil =>
      refine ⟨nofun, ?_⟩
      rintro ⟨word, empty, matched⟩
      cases matched
      cases empty
    | cons letter text =>
      simp only [run, List.mem_ite_nil_right, List.mem_singleton]
      constructor
      · rintro ⟨among, rfl⟩
        exact ⟨[letter], rfl, .one among⟩
      · rintro ⟨word, split, matched⟩
        cases matched with
        | one among =>
          obtain ⟨rfl, rfl⟩ := List.cons.inj split
          exact ⟨among, rfl⟩
  | andThen first second firstHypothesis secondHypothesis =>
    simp only [run, List.mem_flatMap]
    constructor
    · rintro ⟨left, stepped, inside⟩
      obtain ⟨here, rfl, head⟩ := (firstHypothesis text left).mp stepped
      obtain ⟨there, rfl, tail⟩ := (secondHypothesis left rest).mp inside
      exact ⟨here ++ there, (List.append_assoc _ _ _).symm, .andThen head tail⟩
    · rintro ⟨word, rfl, matched⟩
      cases matched with
      | andThen head tail =>
        refine ⟨_, (firstHypothesis _ _).mpr ⟨_, List.append_assoc _ _ _, head⟩, ?_⟩
        exact (secondHypothesis _ _).mpr ⟨_, rfl, tail⟩
  | orElse first second firstHypothesis secondHypothesis =>
    simp only [run, List.mem_append, firstHypothesis, secondHypothesis]
    constructor
    · rintro (⟨word, split, matched⟩ | ⟨word, split, matched⟩)
      · exact ⟨word, split, .left matched⟩
      · exact ⟨word, split, .right matched⟩
    · rintro ⟨word, split, matched⟩
      cases matched with
      | left matched => exact .inl ⟨word, split, matched⟩
      | right matched => exact .inr ⟨word, split, matched⟩
  | many kind =>
    unfold run
    rw [mem_manyRun_iff]
    constructor
    · rintro ⟨word, split, all⟩
      exact ⟨word, split, .many all⟩
    · rintro ⟨word, split, matched⟩
      cases matched with
      | many all => exact ⟨word, split, all⟩
  | upTo count body inductionHypothesis =>
    exact mem_upToRun_iff inductionHypothesis count text rest

/-! ### The letters of a word -/

/-- Every class of a pattern is within a class. -/
def Within (kind : Char → Bool) : Pattern → Prop
  | .one inner => ∀ letter, inner letter = true → kind letter = true
  | .andThen first second => Within kind first ∧ Within kind second
  | .orElse first second => Within kind first ∧ Within kind second
  | .many inner => ∀ letter, inner letter = true → kind letter = true
  | .upTo _ body => Within kind body

theorem within_between (inside : Within kind body)
    (least extra : Nat) : Within kind (between least extra body) := by
  induction least with
  | zero => exact inside
  | succ least inductionHypothesis => exact ⟨inside, inductionHypothesis⟩

/-- The letters of a word are among the classes of the pattern. -/
theorem letters_of_within {pattern : Pattern} {word : List Char}
    (matched : Matches pattern word) (inside : Within kind pattern) :
    ∀ letter ∈ word, kind letter = true := by
  induction matched with
  | one among => exact List.forall_mem_singleton.mpr (inside _ among)
  | andThen _ _ head tail => exact List.forall_mem_append.mpr ⟨head inside.1, tail inside.2⟩
  | left _ head => exact head inside.1
  | right _ tail => exact tail inside.2
  | many among => exact fun letter member => inside letter (among letter member)
  | stop => exact nofun
  | again _ _ head tail => exact List.forall_mem_append.mpr ⟨head inside, tail inside⟩

/-- Every word of a pattern begins with a letter of a class. -/
def Starts (kind : Char → Bool) (pattern : Pattern) : Prop :=
  ∀ word, Matches pattern word → ∃ first rest, word = first :: rest ∧ kind first = true

/-- Every word of a pattern ends with a letter of a class. -/
def Ends (kind : Char → Bool) (pattern : Pattern) : Prop :=
  ∀ word, Matches pattern word → ∃ front last, word = front ++ [last] ∧ kind last = true

/-- Every word of a pattern is empty or ends with a letter of a class. -/
def EndsOrEmpty (kind : Char → Bool) (pattern : Pattern) : Prop :=
  ∀ word, Matches pattern word → word = [] ∨ ∃ front last, word = front ++ [last] ∧ kind last = true

theorem starts_one {kind inner : Char → Bool} (inside : ∀ letter, inner letter = true →
    kind letter = true) (rest : Pattern) : Starts kind (.andThen (.one inner) rest) := by
  intro word matched
  cases matched with
  | andThen head tail =>
    cases head with
    | one among => exact ⟨_, _, rfl, inside _ among⟩

variable {first second : Pattern}

theorem starts_orElse (head : Starts kind first)
    (tail : Starts kind second) : Starts kind (.orElse first second) := by
  intro word matched
  cases matched with
  | left matched => exact head word matched
  | right matched => exact tail word matched

theorem ends_one (kind : Char → Bool) : Ends kind (.one kind) := by
  intro word matched
  cases matched with
  | one among => exact ⟨[], _, rfl, among⟩

theorem ends_andThen (first : Pattern) {second : Pattern}
    (tail : Ends kind second) : Ends kind (.andThen first second) := by
  intro word matched
  cases matched with
  | andThen _ inside =>
    obtain ⟨front, last, rfl, among⟩ := tail _ inside
    exact ⟨_ ++ front, last, (List.append_assoc _ _ _).symm, among⟩

theorem ends_optional (head : Ends kind first)
    (tail : EndsOrEmpty kind second) : Ends kind (.andThen first second) := by
  intro word matched
  cases matched with
  | andThen before inside =>
    rcases tail _ inside with rfl | ⟨front, last, rfl, among⟩
    · rw [List.append_nil]
      exact head _ before
    · exact ⟨_ ++ front, last, (List.append_assoc _ _ _).symm, among⟩

theorem ends_orElse (head : Ends kind first)
    (tail : Ends kind second) : Ends kind (.orElse first second) := by
  intro word matched
  cases matched with
  | left matched => exact head word matched
  | right matched => exact tail word matched

theorem ends_upTo (inside : Ends kind body) (count : Nat) :
    EndsOrEmpty kind (.upTo count body) := by
  intro word matched
  induction count generalizing word with
  | zero =>
    cases matched
    exact .inl rfl
  | succ count inductionHypothesis =>
    cases matched with
    | stop => exact .inl rfl
    | again head tail =>
      rcases inductionHypothesis _ tail with rfl | ⟨front, last, rfl, among⟩
      · rw [List.append_nil]
        exact .inr (inside _ head)
      · exact .inr ⟨_ ++ front, last, (List.append_assoc _ _ _).symm, among⟩

theorem endsOrEmpty_between (inside : Ends kind body)
    (least extra : Nat) : EndsOrEmpty kind (between least extra body) := by
  induction least with
  | zero => exact ends_upTo inside extra
  | succ least inductionHypothesis =>
    exact fun word matched => .inr (ends_optional inside inductionHypothesis word matched)

/-- A repetition that is not optional ends as its body does. -/
theorem ends_between (inside : Ends kind body)
    (least extra : Nat) : Ends kind (between (least + 1) extra body) :=
  ends_optional inside (endsOrEmpty_between inside least extra)

end Pattern

end CareerOS
