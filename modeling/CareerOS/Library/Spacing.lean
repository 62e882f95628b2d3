/-
This file is what collapsing the runs of a kind of character leaves. The runs
become single marks; a text whose runs are single marks is left as it is, so
collapsing twice collapses nothing more. And a word of other characters in the
collapsed text is a word of the text, with the same surroundings up to the kind.
-/

import CareerOS.Library.TextScan

namespace CareerOS

namespace Text

variable {kind : Char → Bool} {mark : Char}

/-! ### Texts with single marks -/

/-- The characters of the kind in a text are single marks inside of it. -/
structure Spaced (kind : Char → Bool) (mark : Char) (letters : List Char) : Prop where
  marks : ∀ letter ∈ letters, kind letter = true → letter = mark
  single : letters.IsChain fun first second => ¬(kind first = true ∧ kind second = true)
  head : ∀ letter ∈ letters.head?, kind letter = false
  last : ∀ letter ∈ letters.getLast?, kind letter = false

variable {letters : List Char}

/-- A text without the kind has no marks. -/
theorem spaced_of_none (none : ∀ letter ∈ letters, kind letter = false) :
    Spaced kind mark letters where
  marks letter member among := by
    rw [none letter member] at among
    cases among
  single := by
    induction letters with
    | nil => exact .nil
    | cons first rest inductionHypothesis =>
      obtain ⟨here, there⟩ := List.forall_mem_cons.mp none
      refine List.isChain_cons.mpr ⟨fun _ _ both => ?_, inductionHypothesis there⟩
      rw [here] at both
      cases both.1
  head letter first := none letter (List.mem_of_head? first)
  last letter last := none letter (List.mem_of_getLast? last)

/-- The characters of the kind at both ends are dropped. -/
def trim (kind : Char → Bool) (letters : List Char) : List Char :=
  (letters.dropWhile kind).rdropWhile kind

theorem stripList_eq_trim (letters : List Char) : stripList letters = trim isSpace letters := rfl

theorem trim_of_solid (head : ∀ letter ∈ letters.head?, kind letter = false)
    (last : ∀ letter ∈ letters.getLast?, kind letter = false) : trim kind letters = letters := by
  have front : letters.dropWhile kind = letters := by
    cases letters with
    | nil => rfl
    | cons first rest => exact List.dropWhile_cons_of_neg (by rw [head first rfl]; decide)
  unfold trim
  rw [front, List.rdropWhile_eq_self_iff]
  intro nonempty among
  rw [last _ (List.getLast?_eq_some_getLast nonempty)] at among
  cases among

theorem head_dropWhile {letter : Char}
    (first : letter ∈ (letters.dropWhile kind).head?) : kind letter = false := by
  have other := List.head?_dropWhile_not kind letters
  rw [Option.mem_def.mp first] at other
  exact other

theorem last_rdropWhile {letter : Char}
    (last : letter ∈ (letters.rdropWhile kind).getLast?) : kind letter = false := by
  cases kept : letters.rdropWhile kind with
  | nil =>
    rw [kept] at last
    cases last
  | cons first rest =>
    have nonempty : letters.rdropWhile kind ≠ [] := by
      rw [kept]
      exact List.cons_ne_nil _ _
    rw [List.getLast?_eq_some_getLast nonempty] at last
    cases last
    exact Bool.eq_false_iff.mpr (List.rdropWhile_last_not kind letters nonempty)

/-- What is dropped at both ends is of the kind. -/
theorem trim_split (kind : Char → Bool) (letters : List Char) : ∃ front back : List Char,
    letters = front ++ trim kind letters ++ back ∧ (∀ letter ∈ front, kind letter = true) ∧
      ∀ letter ∈ back, kind letter = true := by
  refine ⟨letters.takeWhile kind, (letters.dropWhile kind).rtakeWhile kind, ?_, ?_, ?_⟩
  · unfold trim
    rw [List.append_assoc, List.rdropWhile_append_rtakeWhile, List.takeWhile_append_dropWhile]
  · exact fun letter member => List.mem_takeWhile_imp member
  · exact fun letter member => List.mem_rtakeWhile_imp member

theorem head_trim {letter : Char}
    (first : letter ∈ (trim kind letters).head?) : kind letter = false := by
  obtain ⟨back, split⟩ := List.rdropWhile_prefix kind (letters.dropWhile kind)
  refine @head_dropWhile kind letters letter ?_
  rw [← split, List.head?_append]
  unfold trim at first
  rw [Option.mem_def.mp first]
  rfl

theorem last_trim {letter : Char}
    (last : letter ∈ (trim kind letters).getLast?) : kind letter = false :=
  last_rdropWhile last

/-! ### Collapsing -/

/-- A text with single marks is left as it is. -/
theorem collapseFrom_of_marks (inside : Bool)
    (marks : ∀ letter ∈ letters, kind letter = true → letter = mark)
    (single : letters.IsChain fun first second => ¬(kind first = true ∧ kind second = true))
    (head : inside = true → ∀ letter ∈ letters.head?, kind letter = false) :
    collapseFrom kind mark inside letters = letters := by
  induction letters generalizing inside with
  | nil => rfl
  | cons letter rest inductionHypothesis =>
    obtain ⟨here, there⟩ := List.forall_mem_cons.mp marks
    obtain ⟨apart, single⟩ := List.isChain_cons.mp single
    unfold collapseFrom
    split
    · rename_i among
      have outside : inside = false := by
        cases inside with
        | false => rfl
        | true =>
          have other := head rfl letter rfl
          rw [among] at other
          cases other
      have unchanged : collapseFrom kind mark true rest = rest := by
        refine inductionHypothesis true there single fun _ next first => ?_
        exact Bool.eq_false_iff.mpr fun also => apart next first ⟨among, also⟩
      rw [outside, if_neg Bool.false_ne_true, unchanged, here among]
    · rw [inductionHypothesis false there single nofun]

theorem Spaced.collapse (spaced : Spaced kind mark letters) :
    collapse kind mark letters = letters :=
  collapseFrom_of_marks false spaced.marks spaced.single nofun

theorem mem_collapseFrom {inside : Bool} {letter : Char}
    (member : letter ∈ collapseFrom kind mark inside letters) :
    letter = mark ∨ letter ∈ letters ∧ kind letter = false := by
  induction letters generalizing inside with
  | nil => cases member
  | cons first rest inductionHypothesis =>
    unfold collapseFrom at member
    split at member
    · split at member
      · exact (inductionHypothesis member).imp id fun found =>
          ⟨List.mem_cons_of_mem _ found.1, found.2⟩
      · rcases List.mem_cons.mp member with same | later
        · exact .inl same
        · exact (inductionHypothesis later).imp id fun found =>
            ⟨List.mem_cons_of_mem _ found.1, found.2⟩
    · rename_i other
      rcases List.mem_cons.mp member with rfl | later
      · exact .inr ⟨List.mem_cons_self, Bool.eq_false_iff.mpr other⟩
      · exact (inductionHypothesis later).imp id fun found =>
          ⟨List.mem_cons_of_mem _ found.1, found.2⟩

/-- Marks are single, and none follows a mark. -/
theorem single_collapseFrom (inside : Bool) (letters : List Char) :
    (collapseFrom kind mark inside letters).IsChain
        (fun first second => ¬(kind first = true ∧ kind second = true)) ∧
      (inside = true → ∀ letter ∈ (collapseFrom kind mark inside letters).head?,
        kind letter = false) := by
  induction letters generalizing inside with
  | nil => exact ⟨.nil, nofun⟩
  | cons letter rest inductionHypothesis =>
    unfold collapseFrom
    split
    · split
      · rename_i within
        obtain ⟨single, head⟩ := inductionHypothesis true
        exact ⟨single, fun _ => head rfl⟩
      · rename_i outside
        obtain ⟨single, head⟩ := inductionHypothesis true
        refine ⟨List.isChain_cons.mpr ⟨fun next first both => ?_, single⟩,
          fun within => absurd within outside⟩
        rw [head rfl next first] at both
        cases both.2
    · rename_i other
      refine ⟨List.isChain_cons.mpr ⟨fun next first both => other both.1,
        (inductionHypothesis false).1⟩, fun _ first same => ?_⟩
      cases same
      exact Bool.eq_false_iff.mpr other

theorem head_collapse (head : ∀ letter ∈ letters.head?, kind letter = false) :
    ∀ letter ∈ (collapse kind mark letters).head?, kind letter = false := by
  cases letters with
  | nil => exact nofun
  | cons first rest =>
    have solid := head first rfl
    intro letter found
    unfold collapse collapseFrom at found
    rw [if_neg (by rw [solid]; decide)] at found
    cases found
    exact solid

theorem getLast_collapseFrom (inside : Bool) {letter : Char}
    (last : letters.getLast? = some letter) (solid : kind letter = false) :
    (collapseFrom kind mark inside letters).getLast? = some letter := by
  induction letters generalizing inside with
  | nil => cases last
  | cons first rest inductionHypothesis =>
    cases rest with
    | nil =>
      obtain rfl : first = letter := Option.some.inj last
      unfold collapseFrom
      rw [if_neg (by rw [solid]; decide)]
      rfl
    | cons second rest =>
      have later : (second :: rest).getLast? = some letter := last
      unfold collapseFrom
      split
      · split
        · exact inductionHypothesis true later
        · rw [List.getLast?_cons, inductionHypothesis true later]
          rfl
      · rw [List.getLast?_cons, inductionHypothesis false later]
        rfl

/-- Collapsing a text with solid ends leaves single marks inside of it. -/
theorem spaced_collapse (head : ∀ letter ∈ letters.head?, kind letter = false)
    (last : ∀ letter ∈ letters.getLast?, kind letter = false) :
    Spaced kind mark (collapse kind mark letters) where
  marks letter member among := by
    rcases mem_collapseFrom member with same | ⟨-, other⟩
    · exact same
    · rw [other] at among
      cases among
  single := (single_collapseFrom false letters).1
  head := head_collapse head
  last letter found := by
    cases ends : letters.getLast? with
    | none =>
      rw [List.getLast?_eq_none_iff.mp ends] at found
      cases found
    | some final =>
      have solid := last final ends
      have same := @getLast_collapseFrom kind mark letters false final ends solid
      unfold collapse at found
      rw [same] at found
      cases found
      exact solid

theorem spaced_collapse_trim (kind : Char → Bool) (mark : Char) (letters : List Char) :
    Spaced kind mark (collapse kind mark (trim kind letters)) :=
  spaced_collapse (fun _ first => head_trim first) fun _ last => last_trim last

theorem mem_of_mem_trim {letter : Char}
    (member : letter ∈ trim kind letters) : letter ∈ letters := by
  obtain ⟨front, back, split, -, -⟩ := trim_split kind letters
  rw [split]
  exact List.mem_append_left _ (List.mem_append_right _ member)

/-- The marks at the ends may be dropped last. -/
theorem spaced_trim_collapse (kind : Char → Bool) (mark : Char) (letters : List Char) :
    Spaced kind mark (trim kind (collapse kind mark letters)) where
  marks letter member among := by
    rcases mem_collapseFrom (mem_of_mem_trim member) with same | ⟨-, other⟩
    · exact same
    · rw [other] at among
      cases among
  single := by
    obtain ⟨front, back, split, -, -⟩ := trim_split kind (collapse kind mark letters)
    have single := (@single_collapseFrom kind mark false letters).1
    have inside : trim kind (collapse kind mark letters) <:+: collapse kind mark letters :=
      ⟨front, back, split.symm⟩
    exact single.infix inside
  head _ first := head_trim first
  last _ last := last_trim last

/-- A text with single marks is its own normal form. -/
theorem Spaced.normal (spaced : Spaced kind mark letters) :
    Text.collapse kind mark (trim kind letters) = letters := by
  rw [trim_of_solid spaced.head spaced.last]
  exact spaced.collapse

theorem Spaced.trim_collapse (spaced : Spaced kind mark letters) :
    trim kind (Text.collapse kind mark letters) = letters := by
  rw [spaced.collapse]
  exact trim_of_solid spaced.head spaced.last

/-! ### Words of a collapsed text -/

/-- A word at the start of a collapsed text is one at the start of the text. -/
theorem prefix_collapseFrom (marked : kind mark = true) {letters word after : List Char}
    {inside : Bool} (solid : ∀ letter ∈ word, kind letter = false)
    (outside : word ≠ [] → inside = true → ∀ letter ∈ letters.head?, kind letter = false)
    (split : collapseFrom kind mark inside letters = word ++ after) :
    ∃ rest, letters = word ++ rest ∧
      ∀ letter ∈ rest.head?, kind letter = true ∨ letter ∈ after.head? := by
  induction word generalizing inside letters with
  | nil =>
    refine ⟨letters, rfl, fun letter first => ?_⟩
    cases letters with
    | nil => cases first
    | cons head rest =>
      obtain rfl : head = letter := Option.some.inj first
      by_cases among : kind head = true
      · exact .inl among
      · unfold collapseFrom at split
        rw [if_neg among, List.nil_append] at split
        rw [← split]
        exact .inr rfl
  | cons first word inductionHypothesis =>
    obtain ⟨here, there⟩ := List.forall_mem_cons.mp solid
    cases letters with
    | nil => cases split
    | cons head rest =>
      unfold collapseFrom at split
      by_cases among : kind head = true
      · rw [if_pos among] at split
        split at split
        · rename_i within
          rw [outside (List.cons_ne_nil _ _) within head rfl] at among
          cases among
        · obtain ⟨rfl, -⟩ := List.cons.inj split
          rw [marked] at here
          cases here
      · rw [if_neg among] at split
        obtain ⟨rfl, later⟩ := List.cons.inj split
        obtain ⟨left, rfl, follows⟩ := inductionHypothesis there
          (fun _ impossible => absurd impossible Bool.false_ne_true) later
        exact ⟨left, rfl, follows⟩

/-- A word inside of a collapsed text is one inside of the text, between the same characters or
characters of the kind. -/
theorem infix_collapseFrom (marked : kind mark = true) {letters before word after : List Char}
    {inside : Bool} (solid : ∀ letter ∈ word, kind letter = false) (nonempty : word ≠ [])
    (split : collapseFrom kind mark inside letters = before ++ (word ++ after)) :
    ∃ front rest, letters = front ++ (word ++ rest) ∧ (front = [] → before = []) ∧
      (∀ letter ∈ front.getLast?, kind letter = true ∨ letter ∈ before.getLast?) ∧
      ∀ letter ∈ rest.head?, kind letter = true ∨ letter ∈ after.head? := by
  induction letters generalizing inside before with
  | nil =>
    obtain ⟨-, empty⟩ := List.append_eq_nil_iff.mp split.symm
    exact absurd (List.append_eq_nil_iff.mp empty).1 nonempty
  | cons head tail inductionHypothesis =>
    by_cases among : kind head = true
    · have longer : ∀ {inner : List Char}, (∀ letter ∈ inner.getLast?, letter ∈ before.getLast?) →
          collapseFrom kind mark true tail = inner ++ (word ++ after) →
          ∃ front rest, head :: tail = front ++ (word ++ rest) ∧ (front = [] → before = []) ∧
            (∀ letter ∈ front.getLast?, kind letter = true ∨ letter ∈ before.getLast?) ∧
            ∀ letter ∈ rest.head?, kind letter = true ∨ letter ∈ after.head? := by
        intro inner within split
        obtain ⟨front, rest, rfl, -, precedes, follows⟩ := inductionHypothesis split
        refine ⟨head :: front, rest, rfl, nofun, fun letter last => ?_, follows⟩
        cases front with
        | nil =>
          cases last
          exact .inl among
        | cons first front => exact (precedes letter last).imp id (within letter)
      unfold collapseFrom at split
      rw [if_pos among] at split
      split at split
      · exact longer (fun _ last => last) split
      · cases before with
        | nil =>
          cases word with
          | nil => exact absurd rfl nonempty
          | cons first word =>
            obtain ⟨rfl, -⟩ := List.cons.inj split
            rw [solid _ List.mem_cons_self] at marked
            cases marked
        | cons first before =>
          obtain ⟨-, split⟩ := List.cons.inj split
          refine longer (fun letter last => ?_) split
          rw [List.getLast?_cons, Option.mem_def.mp last]
          rfl
    · cases before with
      | nil =>
        obtain ⟨rest, same, follows⟩ := prefix_collapseFrom marked solid
          (fun _ _ letter first => by
            cases first
            exact Bool.eq_false_iff.mpr among) split
        exact ⟨[], rest, same, fun _ => rfl, nofun, follows⟩
      | cons first before =>
        unfold collapseFrom at split
        rw [if_neg among] at split
        obtain ⟨rfl, later⟩ := List.cons.inj split
        obtain ⟨front, rest, rfl, empty, precedes, follows⟩ := inductionHypothesis later
        refine ⟨head :: front, rest, rfl, nofun, fun letter last => ?_, follows⟩
        cases front with
        | nil =>
          cases last
          rw [empty rfl]
          exact .inr rfl
        | cons second front =>
          refine (precedes letter last).imp id fun found => ?_
          rw [List.getLast?_cons, Option.mem_def.mp found]
          rfl

/-! ### Lengths -/

theorem length_collapseFrom_le (kind : Char → Bool) (mark : Char) (inside : Bool)
    (letters : List Char) : (collapseFrom kind mark inside letters).length ≤ letters.length := by
  induction letters generalizing inside with
  | nil => exact Nat.le_refl 0
  | cons letter rest inductionHypothesis =>
    unfold collapseFrom
    split
    · split
      · exact Nat.le_succ_of_le (inductionHypothesis true)
      · exact Nat.succ_le_succ (inductionHypothesis true)
    · exact Nat.succ_le_succ (inductionHypothesis false)

theorem length_rdropWhile_le (kind : Char → Bool) (letters : List Char) :
    (letters.rdropWhile kind).length ≤ letters.length :=
  (List.rdropWhile_prefix kind letters).length_le

theorem length_trim_le (kind : Char → Bool) (letters : List Char) :
    (trim kind letters).length ≤ letters.length :=
  (length_rdropWhile_le kind _).trans (List.dropWhile_suffix kind).length_le

/-- The runs of a text and a letter after each fit into the text and one letter more. -/
theorem sum_length_runsFrom (kind : Char → Bool) (run letters : List Char) :
    ((runsFrom kind run letters).map fun word => word.length + 1).sum ≤
      run.length + letters.length + 1 := by
  induction letters generalizing run with
  | nil =>
    unfold runsFrom
    split
    · exact Nat.zero_le _
    · exact Nat.le_refl _
  | cons letter rest inductionHypothesis =>
    unfold runsFrom
    split
    · have longer := inductionHypothesis (run ++ [letter])
      rw [List.length_append] at longer
      rw [List.length_cons]
      exact longer.trans (by simp only [List.length_cons, List.length_nil]; omega)
    · split
      · rename_i empty
        subst empty
        exact (inductionHypothesis []).trans (by simp only [List.length_nil, List.length_cons]; omega)
      · have later := inductionHypothesis []
        rw [List.map_cons, List.sum_cons]
        simp only [List.length_nil, List.length_cons] at later ⊢
        omega

theorem length_le_of_mem_runsFrom {kind : Char → Bool} {run letters word : List Char}
    (member : word ∈ runsFrom kind run letters) : word.length ≤ run.length + letters.length := by
  have within : word.length + 1 ≤
      ((runsFrom kind run letters).map fun word => word.length + 1).sum :=
    List.single_le_sum (fun _ _ => Nat.zero_le _) _ (List.mem_map.mpr ⟨word, member, rfl⟩)
  exact Nat.succ_le_succ_iff.mp (within.trans (sum_length_runsFrom kind run letters))

end Text

end CareerOS
