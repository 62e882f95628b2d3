/-
This file proves that a canonical query is canonical already. Removing the noise
of a text leaves none, and neither cleaning a text nor collapsing its white
space brings one about: a noise in the result would be one in the text, since
what is replaced is no part of a word. A slug is a slug already. So normalising a
query a second time changes nothing.
-/

import CareerOS.Services.QueryContracts

namespace CareerOS

open Text

variable [QueryTables]

/-! ### Noise -/

/-- The letters of a noise. -/
def noiseLetters : List Char := ['m', 'M', 'f', 'F', 'w', 'W', 'd', 'D']

/-- A noise that is not a percentage. -/
structure NoiseWord (word : List Char) : Prop where
  matched : Pattern.Matches queryNoise word
  letters : ∃ first second third, word = [first, '/', second, '/', third] ∧
    first ∈ noiseLetters ∧ second ∈ noiseLetters ∧ third ∈ noiseLetters

variable {letter : Char}

omit [QueryTables] in
theorem isSpace_noiseLetter (among : letter ∈ noiseLetters) :
    isSpace letter = false := by
  have plain : ∀ letter ∈ noiseLetters, isSpace letter = false :=
    List.all_iff_forall_prop.mp (by decide)
  exact plain letter among

theorem isWord_noiseLetter (among : letter ∈ noiseLetters) :
    WordTables.isWord letter = true := by
  have plain : ∀ letter ∈ noiseLetters, letter.val < 128 ∧ letter.isAlphanum = true :=
    List.all_iff_forall_prop.mp (by decide)
  rw [WordTables.isWord_ascii letter (plain letter among).1, (plain letter among).2]
  rfl

variable {word : List Char}

omit [QueryTables] in
theorem matches_eitherCase {lower upper : Char}
    (matched : Pattern.Matches (eitherCase lower upper) word) :
    ∃ letter, word = [letter] ∧ (letter = lower ∨ letter = upper) := by
  cases matched with
  | one among =>
    exact ⟨_, rfl, (Bool.or_eq_true_iff.mp among).imp beq_iff_eq.mp beq_iff_eq.mp⟩

omit [QueryTables] in
theorem matches_slashed {lower upper lower' upper' lower'' upper'' : Char}
    (known : ∀ letter ∈ [lower, upper, lower', upper', lower'', upper''], letter ∈ noiseLetters)
    (matched : Pattern.Matches (slashed (eitherCase lower upper) (eitherCase lower' upper')
      (eitherCase lower'' upper'')) word) :
    ∃ first second third, word = [first, '/', second, '/', third] ∧
      first ∈ noiseLetters ∧ second ∈ noiseLetters ∧ third ∈ noiseLetters := by
  cases matched with
  | andThen one rest =>
    cases rest with
    | andThen slash rest =>
      cases rest with
      | andThen two rest =>
        cases rest with
        | andThen slash' three =>
          obtain ⟨first, rfl, firstIs⟩ := matches_eitherCase one
          obtain ⟨second, rfl, secondIs⟩ := matches_eitherCase two
          obtain ⟨third, rfl, thirdIs⟩ := matches_eitherCase three
          cases slash with
          | one isSlash =>
            cases slash' with
            | one isSlash' =>
              cases beq_iff_eq.mp isSlash
              cases beq_iff_eq.mp isSlash'
              exact ⟨first, second, third, rfl, known first (by simp; tauto),
                known second (by simp; tauto), known third (by simp; tauto)⟩

/-- A noise is a percentage or three letters between slashes. -/
theorem noiseWord_of_matches (matched : Pattern.Matches queryNoise word)
    (plain : '%' ∉ word) : NoiseWord word := by
  refine ⟨matched, ?_⟩
  cases matched with
  | left matched =>
    exact matches_slashed (List.all_iff_forall_prop.mp (by decide)) matched
  | right matched =>
    cases matched with
    | left matched =>
      exact matches_slashed (List.all_iff_forall_prop.mp (by decide)) matched
    | right matched =>
      cases matched with
      | left matched =>
        exact matches_slashed (List.all_iff_forall_prop.mp (by decide)) matched
      | right matched =>
        cases matched with
        | andThen digits rest =>
          cases rest with
          | andThen more percent =>
            cases percent with
            | one isPercent =>
              cases beq_iff_eq.mp isPercent
              refine absurd ?_ plain
              exact List.mem_append_right _ (List.mem_append_right _ List.mem_cons_self)

/-- Such a noise is in a text, with no word before or after it. -/
def NoiseIn (letters : List Char) : Prop :=
  ∃ before word after, letters = before ++ (word ++ after) ∧ NoiseWord word ∧
    (∀ letter ∈ before.getLast?, WordTables.isWord letter = false) ∧
    ∀ letter ∈ after.head?, WordTables.isWord letter = false

variable {letters : List Char}

theorem startsInWord_false (outside : ∀ letter ∈ letters.head?, WordTables.isWord letter = false) :
    startsInWord letters = false := by
  unfold startsInWord
  cases letters with
  | nil => rfl
  | cons letter rest => exact outside letter rfl

theorem outside_of_startsInWord (outside : startsInWord letters = false) :
    ∀ letter ∈ letters.head?, WordTables.isWord letter = false := by
  intro letter first
  unfold startsInWord at outside
  rw [Option.mem_def.mp first] at outside
  exact outside

theorem afterNoise_some {letters left : List Char} (found : afterNoise letters = some left) :
    (∃ word, letters = word ++ left ∧ Pattern.Matches queryNoise word) ∧
      ∀ letter ∈ left.head?, WordTables.isWord letter = false := by
  unfold afterNoise at found
  refine ⟨(Pattern.mem_run_iff _ _ _).mp (List.mem_of_find?_eq_some found), ?_⟩
  have outside := List.find?_some found
  rw [Bool.not_eq_true'] at outside
  exact outside_of_startsInWord outside

theorem afterNoise_ne_none {word left : List Char} (matched : Pattern.Matches queryNoise word)
    (outside : ∀ letter ∈ left.head?, WordTables.isWord letter = false) :
    afterNoise (word ++ left) ≠ none := by
  intro missed
  unfold afterNoise at missed
  have inside : left ∈ queryNoise.run (word ++ left) :=
    (Pattern.mem_run_iff _ _ _).mpr ⟨word, rfl, matched⟩
  have refused := List.find?_eq_none.mp missed left inside
  rw [startsInWord_false outside] at refused
  exact refused rfl

theorem matches_queryNoise_ne_nil (matched : Pattern.Matches queryNoise word) : word ≠ [] := by
  rintro rfl
  obtain ⟨first, second, third, impossible, -⟩ :=
    (noiseWord_of_matches matched List.not_mem_nil).letters
  cases impossible

/-- What a noise leaves is what follows the characters that are skipped. -/
theorem drop_afterNoise {rest left : List Char} (found : afterNoise (letter :: rest) = some left) :
    rest.drop (rest.length - left.length) = left := by
  obtain ⟨⟨word, same, matched⟩, -⟩ := afterNoise_some found
  cases word with
  | nil => exact absurd rfl (matches_queryNoise_ne_nil matched)
  | cons first word =>
    have tail : rest = word ++ left := (List.cons.inj same).2
    rw [tail, List.length_append, Nat.add_sub_cancel]
    exact List.drop_left

/-! ### Removing noise leaves none -/

/-- A word of kept characters at the start of what is left is one at the start of the text. -/
theorem prefix_removeNoise {inWord : Bool} {letters word after : List Char} (solid : ' ' ∉ word)
    (split : removeNoise 0 inWord letters = word ++ after) :
    ∃ left flag, letters = word ++ left ∧ after = removeNoise 0 flag left ∧
      ∀ letter ∈ word.getLast?, flag = WordTables.isWord letter := by
  induction word generalizing inWord letters with
  | nil => exact ⟨letters, inWord, rfl, split.symm, nofun⟩
  | cons first word inductionHypothesis =>
    cases letters with
    | nil =>
      unfold removeNoise at split
      cases split
    | cons letter rest =>
      unfold removeNoise at split
      split at split
      · obtain ⟨rfl, later⟩ := List.cons.inj split
        obtain ⟨left, flag, rfl, same, ends⟩ := inductionHypothesis
          (fun member => solid (List.mem_cons_of_mem _ member)) later
        cases word with
        | nil =>
          refine ⟨left, WordTables.isWord letter, rfl, later.symm, fun final last => ?_⟩
          cases last
          rfl
        | cons second word => exact ⟨left, flag, rfl, same, ends⟩
      · obtain ⟨rfl, -⟩ := List.cons.inj split
        exact absurd List.mem_cons_self solid

theorem NoiseWord.solid (noise : NoiseWord word) : ' ' ∉ word := by
  obtain ⟨first, second, third, rfl, one, two, three⟩ := noise.letters
  have other : ∀ letter ∈ noiseLetters, ' ' ≠ letter :=
    List.all_iff_forall_prop.mp (by decide)
  intro member
  simp only [List.mem_cons, List.not_mem_nil, or_false] at member
  rcases member with same | same | same | same | same
  · exact other first one same
  · exact absurd same (by decide)
  · exact other second two same
  · exact absurd same (by decide)
  · exact other third three same

theorem NoiseWord.head {word after : List Char} (noise : NoiseWord word) :
    ∀ letter ∈ (word ++ after).head?, WordTables.isWord letter = true := by
  obtain ⟨first, second, third, rfl, one, -, -⟩ := noise.letters
  intro letter found
  cases found
  exact isWord_noiseLetter one

/-- A noise in the rest of a text would have been removed. -/
theorem not_noise_removeNoise {letters before word after : List Char} {skip : Nat} {inWord : Bool}
    (split : removeNoise skip inWord letters = before ++ (word ++ after)) (noise : NoiseWord word)
    (starts : before = [] → skip = 0 ∧ inWord = false ∨
      ∀ letter ∈ (letters.drop skip).head?, WordTables.isWord letter = false)
    (precedes : ∀ letter ∈ before.getLast?, WordTables.isWord letter = false)
    (follows : ∀ letter ∈ after.head?, WordTables.isWord letter = false) : False := by
  induction letters generalizing skip inWord before with
  | nil =>
    unfold removeNoise at split
    obtain ⟨-, empty⟩ := List.append_eq_nil_iff.mp split.symm
    obtain ⟨first, second, third, rfl, -⟩ := noise.letters
    cases (List.append_eq_nil_iff.mp empty).1
  | cons letter rest inductionHypothesis =>
    cases skip with
    | succ skip =>
      unfold removeNoise at split
      refine inductionHypothesis split (fun empty => .inr ?_) precedes
      rcases starts empty with ⟨impossible, -⟩ | outside
      · cases impossible
      · exact outside
    | zero =>
      unfold removeNoise at split
      split at split
      · rename_i missed
        cases before with
        | cons first before =>
          obtain ⟨rfl, later⟩ := List.cons.inj split
          refine inductionHypothesis later (fun empty => .inl ⟨rfl, ?_⟩) fun last found => ?_
          · rw [empty] at precedes
            exact precedes letter rfl
          · refine precedes last ?_
            rw [List.getLast?_cons, Option.mem_def.mp found]
            rfl
        | nil =>
          have isWord := noise.head letter (by
            rw [List.nil_append] at split
            rw [← split]
            rfl)
          rcases starts rfl with ⟨-, rfl⟩ | outside
          · rw [if_neg Bool.false_ne_true] at missed
            obtain ⟨first, second, third, same, one, two, three⟩ := noise.letters
            have matched := noise.matched
            have solid := noise.solid
            rw [same] at split matched solid
            obtain ⟨rfl, later⟩ := List.cons.inj split
            obtain ⟨left, flag, rfl, rfl, ends⟩ := prefix_removeNoise
              (fun member => solid (List.mem_cons_of_mem _ member)) later
            have inside : flag = true := (ends third rfl).trans (isWord_noiseLetter three)
            refine afterNoise_ne_none matched (fun next found => ?_) missed
            refine follows next ?_
            cases left with
            | nil => cases found
            | cons head tail =>
              cases found
              rw [inside]
              unfold removeNoise
              exact rfl
          · rw [outside letter rfl] at isWord
            cases isWord
      · rename_i left found
        cases before with
        | nil =>
          refine noise.solid ?_
          obtain ⟨first, second, third, same, -⟩ := noise.letters
          rw [same] at split ⊢
          obtain ⟨rfl, -⟩ := List.cons.inj split
          exact List.mem_cons_self
        | cons first before =>
          obtain ⟨rfl, later⟩ := List.cons.inj split
          refine inductionHypothesis later (fun _ => .inr ?_) fun last inside => ?_
          · cases inWord with
            | true =>
              rw [if_pos rfl] at found
              cases found
            | false =>
              rw [if_neg Bool.false_ne_true] at found
              rw [drop_afterNoise found]
              exact (afterNoise_some found).2
          · refine precedes last ?_
            rw [List.getLast?_cons, Option.mem_def.mp inside]
            rfl

theorem not_noiseIn_removeNoise (letters : List Char) : ¬NoiseIn (removeNoise 0 false letters) := by
  rintro ⟨before, word, after, split, noise, precedes, follows⟩
  exact not_noise_removeNoise split noise (fun _ => .inl ⟨rfl, rfl⟩) precedes follows

/-- A text without noise is left as it is. -/
theorem removeNoise_of_not_noiseIn {before letters : List Char} {inWord : Bool}
    (clean : ¬NoiseIn (before ++ letters)) (plain : '%' ∉ letters)
    (flag : inWord = false → ∀ letter ∈ before.getLast?, WordTables.isWord letter = false) :
    removeNoise 0 inWord letters = letters := by
  induction letters generalizing inWord before with
  | nil => rfl
  | cons letter rest inductionHypothesis =>
    have later : removeNoise 0 (WordTables.isWord letter) rest = rest := by
      refine @inductionHypothesis (before ++ [letter]) (WordTables.isWord letter) ?_
        (fun member => plain (List.mem_cons_of_mem _ member)) fun outside last found => ?_
      · rw [List.append_assoc]
        exact clean
      · rw [List.getLast?_concat] at found
        cases found
        exact outside
    unfold removeNoise
    split
    · rw [later]
    · rename_i left found
      cases inWord with
      | true =>
        rw [if_pos rfl] at found
        cases found
      | false =>
        rw [if_neg Bool.false_ne_true] at found
        obtain ⟨⟨word, same, matched⟩, outside⟩ := afterNoise_some found
        refine absurd ?_ clean
        rw [same] at plain ⊢
        exact ⟨before, word, left, rfl, noiseWord_of_matches matched
          (fun member => plain (List.mem_append_left _ member)), flag rfl, outside⟩

/-! ### Cleaning brings no noise about -/

theorem NoiseWord.outside_space (noise : NoiseWord word) :
    ∀ letter ∈ word, isSpace letter = false := by
  obtain ⟨first, second, third, rfl, one, two, three⟩ := noise.letters
  intro letter member
  simp only [List.mem_cons, List.not_mem_nil, or_false] at member
  rcases member with rfl | rfl | rfl | rfl | rfl
  · exact isSpace_noiseLetter one
  · decide
  · exact isSpace_noiseLetter two
  · decide
  · exact isSpace_noiseLetter three

/-- A character that is white space or no word after cleaning was no word before it. -/
theorem isWord_of_cleaned
    (cleaned : isSpace (if isQueryLetter letter then letter else ' ') = true ∨
      WordTables.isWord (if isQueryLetter letter then letter else ' ') = false) :
    WordTables.isWord letter = false := by
  by_cases kept : isQueryLetter letter = true
  · rw [if_pos kept] at cleaned
    exact cleaned.elim (QueryTables.isWord_of_isSpace letter) id
  · unfold isQueryLetter at kept
    rw [Bool.or_eq_true, Bool.or_eq_true, not_or, not_or] at kept
    exact Bool.eq_false_iff.mpr kept.1.1

theorem eq_of_cleanQuery {letters word : List Char}
    (solid : ∀ letter ∈ word, isSpace letter = false) (cleaned : cleanQuery letters = word) :
    letters = word := by
  induction letters generalizing word with
  | nil => exact cleaned
  | cons letter rest inductionHypothesis =>
    unfold cleanQuery at cleaned
    rw [List.map_cons] at cleaned
    subst cleaned
    obtain ⟨here, there⟩ := List.forall_mem_cons.mp solid
    split at here
    · rename_i kept
      rw [if_pos kept]
      exact congrArg _ (inductionHypothesis there rfl)
    · exact absurd here (by decide)

/-- A noise in a cleaned text was in the text. -/
theorem not_noiseIn_cleanQuery (clean : ¬NoiseIn letters) :
    ¬NoiseIn (normalizeWhitespace (cleanQuery letters)) := by
  rintro ⟨before, word, after, split, noise, precedes, follows⟩
  have nonempty : word ≠ [] := matches_queryNoise_ne_nil noise.matched
  obtain ⟨front, rest, inside, -, frontEnds, restStarts⟩ :=
    infix_collapseFrom (by decide) noise.outside_space nonempty split
  obtain ⟨lead, trail, whole, leadSpace, trailSpace⟩ := trim_split isSpace (cleanQuery letters)
  rw [stripList_eq_trim] at inside
  rw [inside] at whole
  have parts : cleanQuery letters = (lead ++ front) ++ (word ++ (rest ++ trail)) := by
    rw [whole]
    simp only [List.append_assoc]
  obtain ⟨first, others, rfl, firstClean, othersClean⟩ := List.map_eq_append_iff.mp parts
  obtain ⟨middle, last, rfl, middleClean, lastClean⟩ := List.map_eq_append_iff.mp othersClean
  refine clean ⟨first, word, last, ?_, noise, fun letter found => ?_, fun letter found => ?_⟩
  · rw [eq_of_cleanQuery noise.outside_space middleClean]
  · have ends := List.getLast?_map (f := fun letter => if isQueryLetter letter then letter else ' ')
      (l := first)
    rw [firstClean, Option.mem_def.mp found, List.getLast?_append] at ends
    refine isWord_of_cleaned ?_
    cases inner : front.getLast? with
    | none =>
      rw [inner, Option.none_or] at ends
      exact .inl (leadSpace _ (List.mem_of_getLast? ends))
    | some final =>
      rw [inner] at ends
      cases ends
      exact (frontEnds _ inner).imp id (precedes _)
  · have starts := List.head?_map (f := fun letter => if isQueryLetter letter then letter else ' ')
      (l := last)
    rw [lastClean, Option.mem_def.mp found, List.head?_append] at starts
    refine isWord_of_cleaned ?_
    cases inner : rest.head? with
    | none =>
      rw [inner, Option.none_or] at starts
      exact .inl (trailSpace _ (List.mem_of_head? starts))
    | some final =>
      rw [inner] at starts
      cases starts
      exact (restStarts _ inner).imp id (follows _)

/-! ### Canonical queries -/

theorem mem_removeNoise {skip : Nat} {inWord : Bool}
    (member : letter ∈ removeNoise skip inWord letters) : letter = ' ' ∨ letter ∈ letters := by
  induction letters generalizing skip inWord with
  | nil =>
    unfold removeNoise at member
    cases member
  | cons first rest inductionHypothesis =>
    cases skip with
    | succ skip =>
      unfold removeNoise at member
      exact (inductionHypothesis member).imp id (List.mem_cons_of_mem _)
    | zero =>
      unfold removeNoise at member
      split at member
      · rcases List.mem_cons.mp member with rfl | later
        · exact .inr List.mem_cons_self
        · exact (inductionHypothesis later).imp id (List.mem_cons_of_mem _)
      · rcases List.mem_cons.mp member with rfl | later
        · exact .inl rfl
        · exact (inductionHypothesis later).imp id (List.mem_cons_of_mem _)

omit [QueryTables] in
theorem plainQuote_plainQuote (letter : Char) :
    plainQuote (plainQuote letter) = plainQuote letter := by
  by_cases double : letter = '“' ∨ letter = '”'
  · unfold plainQuote
    rw [if_pos double]
    decide
  · by_cases single : letter = '’' ∨ letter.toNat = 0x60
    · unfold plainQuote
      rw [if_neg double, if_pos single]
      decide
    · have same : plainQuote letter = letter := by
        unfold plainQuote
        rw [if_neg double, if_neg single]
      rw [same, same]

/-- What the text of a canonical query is made of. -/
structure CanonicalText (letters : List Char) : Prop where
  spaced : Spaced isSpace ' ' letters
  kept : ∀ letter ∈ letters, isQueryLetter letter = true
  plain : ∀ letter ∈ letters, plainQuote letter = letter
  quiet : ¬NoiseIn letters

theorem canonicalText_canonicalizeQueryText (query : String) :
    CanonicalText (canonicalizeQueryText query).toList := by
  unfold canonicalizeQueryText
  rw [String.toList_ofList]
  have among : ∀ letter ∈ normalizeWhitespace (cleanQuery (removeNoise 0 false
      ((normalizeWhitespace query.toList).map plainQuote))),
      letter = ' ' ∨ isQueryLetter letter = true ∧ plainQuote letter = letter := by
    intro letter member
    rcases mem_collapseFrom member with same | ⟨inside, -⟩
    · exact .inl same
    · obtain ⟨lead, trail, whole, -, -⟩ := trim_split isSpace (cleanQuery (removeNoise 0 false
        ((normalizeWhitespace query.toList).map plainQuote)))
      rw [stripList_eq_trim] at inside
      have cleaned : letter ∈ cleanQuery (removeNoise 0 false
          ((normalizeWhitespace query.toList).map plainQuote)) := by
        rw [whole]
        exact List.mem_append_left _ (List.mem_append_right _ inside)
      obtain ⟨original, found, rfl⟩ := List.mem_map.mp cleaned
      split
      · rename_i kept
        rcases mem_removeNoise found with space | quoted
        · exact .inl space
        · obtain ⟨source, -, rfl⟩ := List.mem_map.mp quoted
          exact .inr ⟨kept, plainQuote_plainQuote source⟩
      · exact .inl rfl
  refine ⟨spaced_collapse_trim isSpace ' ' _, fun letter member => ?_, fun letter member => ?_,
    not_noiseIn_cleanQuery (not_noiseIn_removeNoise _)⟩
  · rcases among letter member with rfl | ⟨kept, -⟩
    · unfold isQueryLetter
      rw [Bool.or_eq_true, Bool.or_eq_true]
      exact .inl (.inr (by decide))
    · exact kept
  · rcases among letter member with rfl | ⟨-, plain⟩
    · decide
    · exact plain

omit [QueryTables] in
theorem map_of_forall {change : Char → Char}
    (same : ∀ letter ∈ letters, change letter = letter) : letters.map change = letters :=
  (List.map_congr_left same).trans (List.map_id' letters)

theorem CanonicalText.canonicalizeQueryText {query : String}
    (canonical : CanonicalText query.toList) : canonicalizeQueryText query = query := by
  have spaces : normalizeWhitespace query.toList = query.toList := canonical.spaced.normal
  have quotes : query.toList.map plainQuote = query.toList := map_of_forall canonical.plain
  have percent : '%' ∉ query.toList := by
    intro member
    have kept := canonical.kept '%' member
    unfold isQueryLetter at kept
    rw [WordTables.isWord_ascii '%' (by decide)] at kept
    revert kept
    decide
  have quiet : removeNoise 0 false query.toList = query.toList :=
    @removeNoise_of_not_noiseIn _ [] query.toList false canonical.quiet percent nofun
  have clean : cleanQuery query.toList = query.toList :=
    map_of_forall fun letter member => if_pos (canonical.kept letter member)
  unfold CareerOS.canonicalizeQueryText
  rw [spaces]
  dsimp only
  rw [quotes, quiet, clean, spaces, String.ofList_toList]

/-! ### Slugs -/

/-- A character of a slug. -/
def isSlugLetter (letter : Char) : Bool :=
  ('a' ≤ letter && letter ≤ 'z') || ('0' ≤ letter && letter ≤ '9') || letter == '-'

/-- A slug. -/
structure IsSlug (text : List Char) : Prop where
  letters : ∀ letter ∈ text, isSlugLetter letter = true
  spaced : Spaced (· == '-') '-' text

section

omit [QueryTables]

theorem isSlugLetter_of_isDomainLetter (among : isDomainLetter letter = true)
    (solid : letter ≠ ' ') : isSlugLetter letter = true := by
  unfold isDomainLetter at among
  rw [Bool.or_eq_true] at among
  exact among.resolve_right fun space => solid (beq_iff_eq.mp space)

theorem isSlug_domainSlug (letters : List Char) : IsSlug (domainSlug letters) := by
  refine ⟨fun letter member => ?_, spaced_trim_collapse _ _ _⟩
  rcases mem_collapseFrom (mem_of_mem_trim member) with rfl | ⟨inside, -⟩
  · decide
  · obtain ⟨original, found, rfl⟩ := List.mem_map.mp inside
    split
    · decide
    · rename_i solid
      exact isSlugLetter_of_isDomainLetter (List.mem_filter.mp found).2 solid

theorem toNat_of_isSlugLetter (slug : isSlugLetter letter = true) :
    letter.toNat < 128 := by
  unfold isSlugLetter at slug
  simp only [Bool.or_eq_true, Bool.and_eq_true, decide_eq_true_eq, beq_iff_eq] at slug
  rcases slug with (⟨-, below⟩ | ⟨-, below⟩) | rfl
  · exact Nat.lt_of_le_of_lt below (by decide)
  · exact Nat.lt_of_le_of_lt below (by decide)
  · decide

/-- A letter of a slug is in ASCII, is not upper case, and is none of the marks that are
replaced. -/
theorem isSlugLetter_plain (slug : isSlugLetter letter = true) :
    (letter.val < 128 ∧ letter.isUpper = false) ∧ isSpace letter = false ∧
      ¬(letter = '/' ∨ letter = '_') ∧ isDomainLetter letter = true ∧ letter ≠ ' ' := by
  have ascii : ∀ code < 128, isSlugLetter (Char.ofNat code) = true →
      ((Char.ofNat code).val < 128 ∧ (Char.ofNat code).isUpper = false) ∧
        isSpace (Char.ofNat code) = false ∧ ¬(Char.ofNat code = '/' ∨ Char.ofNat code = '_') ∧
          isDomainLetter (Char.ofNat code) = true ∧ Char.ofNat code ≠ ' ' := by
    decide +kernel
  have found := ascii letter.toNat (toNat_of_isSlugLetter slug)
  rw [Char.ofNat_toNat] at found
  exact found slug

theorem IsSlug.domainSlug {text : List Char} (slug : IsSlug text) : domainSlug text = text := by
  have plain := fun letter member => isSlugLetter_plain (slug.letters letter member)
  have spaces : normalizeWhitespace text = text :=
    (spaced_of_none fun letter member => (plain letter member).2.1).normal
  unfold CareerOS.domainSlug
  rw [spaces]
  dsimp only
  rw [map_of_forall fun letter member => if_neg (plain letter member).2.2.1,
    List.filter_eq_self.mpr fun letter member => (plain letter member).2.2.2.1,
    map_of_forall fun letter member => if_neg (plain letter member).2.2.2.2]
  exact slug.spaced.trim_collapse

end

/-- A slug is in lower case and is its own domain. -/
theorem IsSlug.normalizeDomain {text : String} (slug : IsSlug text.toList) (solid : text ≠ "") :
    normalizeDomain text = text := by
  have lower : QueryTables.lower text = text :=
    QueryTables.lower_plain text fun letter member =>
      (isSlugLetter_plain (slug.letters letter member)).1
  have whole : orElse text "general" = text := if_neg solid
  unfold CareerOS.normalizeDomain
  rw [whole, lower, slug.domainSlug, String.ofList_toList, whole]

theorem isSlug_normalizeDomain (value : String) :
    IsSlug (normalizeDomain value).toList ∧ normalizeDomain value ≠ "" := by
  unfold normalizeDomain
  by_cases empty : String.ofList (domainSlug
      (QueryTables.lower (orElse value "general")).toList) = ""
  · rw [empty]
    refine ⟨⟨?_, spaced_of_none ?_⟩, by decide⟩
    · exact List.all_iff_forall_prop.mp (by decide)
    · exact List.all_iff_forall_prop.mp (by decide)
  · rw [orElse, if_neg empty, String.toList_ofList]
    exact ⟨isSlug_domainSlug _, empty⟩

/-- A domain is its own domain. -/
theorem normalizeDomain_normalizeDomain (value : String) :
    normalizeDomain (normalizeDomain value) = normalizeDomain value := by
  obtain ⟨slug, solid⟩ := isSlug_normalizeDomain value
  exact slug.normalizeDomain solid

/-! ### Normal queries -/

theorem normalizeLanguage_english : normalizeLanguage "en" = "en" := by
  have lower : QueryTables.lower "en" = "en" :=
    QueryTables.lower_plain "en" (List.all_iff_forall_prop.mp (by decide))
  unfold normalizeLanguage
  rw [orElse, if_neg (by decide), lower]
  rfl

/-- A normalised query is normal. -/
theorem normalizeSearchItem_normalized {search normalized : SearchItem}
    (made : normalizeSearchItem search = some normalized) (english : search.language = "en") :
    normalizeSearchItem normalized = some normalized ∧ normalized.language = "en" ∧
      normalized.domain = normalizeDomain search.domain := by
  unfold normalizeSearchItem at made
  dsimp only at made
  split at made
  · cases made
  · rename_i solid
    have same := Option.some.inj made
    subst same
    have language : normalizeLanguage search.language = "en" := by
      rw [english]
      exact normalizeLanguage_english
    have query := (canonicalText_canonicalizeQueryText search.query).canonicalizeQueryText
    have domain := normalizeDomain_normalizeDomain search.domain
    generalize canonicalizeQueryText search.query = text at solid query
    generalize normalizeDomain search.domain = slug at domain
    generalize normalizeLanguage search.language = written at language
    refine ⟨?_, language, rfl⟩
    unfold normalizeSearchItem
    dsimp only
    rw [query, if_neg solid, domain, language, normalizeLanguage_english]

end CareerOS
