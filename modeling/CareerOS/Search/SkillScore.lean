/-
This file is the score of how far the skills of a profile cover those of a job. A job
skill gets the weight of the first tier that finds anything: its canonical name, the
taxonomy, the similarity of the texts, and a name inside of another. The score is the
average weight. Each tier grows with the profile, and the first of several growing
tiers need not: a skill that is faintly related takes the place of a text that is very
similar.

The taxonomy, the settings and the ratio of the sequence matcher are parameters.
-/

import CareerOS.Search.Deduplicator

namespace CareerOS

open Text

/-- The skill taxonomy, the settings of the similarity of skills, `str.isalnum()` and
`SequenceMatcher(None, left, right).ratio()`. -/
class SkillTables extends ListingTexts where
  /-- `_ALIAS_TO_CANONICAL`. -/
  aliasToCanonical : String → Option String
  /-- `_CANONICAL_RELATED`. -/
  canonicalRelated : String → String → Option Rat
  embeddingEnabled : Bool
  embeddingThreshold : Rat
  isAlnum : Char → Bool
  ratio : String → String → Rat
  related_le_one : ∀ first second weight, canonicalRelated first second = some weight → weight ≤ 1
  ratio_nonneg : ∀ left right, 0 ≤ ratio left right
  ratio_le_one : ∀ left right, ratio left right ≤ 1

section

variable [SkillTables]

/-! ### The similarity of two skills -/

/-- The largest of the values, and of zero. -/
def largest (values : List Rat) : Rat := values.foldl max 0

/-- `round(value, 6)`. -/
def roundSix (value : Rat) : Rat :=
  let scaled := value * 1000000
  let rest := scaled - scaled.floor
  let up := 1 < 2 * rest ∨ 2 * rest = 1 ∧ scaled.floor % 2 = 1
  mkRat (if up then scaled.floor + 1 else scaled.floor) 1000000

/-- `_normalize`. -/
def normalizeSkill (value : String) : List Char :=
  joinWords ((TextTables.lower value).toList.map fun letter =>
    if SkillTables.isAlnum letter then letter else ' ')

section

omit [SkillTables] in
theorem lawful_words : LawfulBEq (List Char) := inferInstance

attribute [local instance] lawful_words

/-- `embedding_skill_similarity`. -/
def embeddingSkillSimilarity (first second : String) : Rat :=
  let left := normalizeSkill first
  let right := normalizeSkill second
  if left = [] ∨ right = [] then 0
  else if left = right then 1
  else
    let leftTokens := runs (fun letter => !isSpace letter) left
    let rightTokens := runs (fun letter => !isSpace letter) right
    let tokenScore := mkRat (leftTokens.dedup.filter (· ∈ rightTokens)).length
      (max 1 (leftTokens ++ rightTokens).dedup.length)
    let sequenceScore := SkillTables.ratio (String.ofList left) (String.ofList right)
    roundSix (max tokenScore (sequenceScore * mkRat 9 10))

end

/-- `best_embedding_match`. -/
def bestEmbeddingMatch (querySkill : String) (candidateSkills : List String) : Rat :=
  if querySkill = "" ∨ candidateSkills = [] then 0
  else
    let best := largest ((candidateSkills.filter (· ≠ "")).map
      (embeddingSkillSimilarity querySkill))
    if SkillTables.embeddingThreshold ≤ best then best else 0

/-! ### The tiers -/

/-- The skill by its canonical name. -/
def canonicalSkill (skill : String) : String :=
  let token := normalizedTextToken (some skill)
  (SkillTables.aliasToCanonical token).getD token

/-- The canonical names of the skills of a profile. -/
def profileCanonical (profileSkills : List String) : List String :=
  (profileSkills.filter (· ≠ "")).map canonicalSkill

/-- `_CANONICAL_RELATED.get(first, {}).get(second, 0.0)`. -/
def relatedWeight (first second : String) : Rat :=
  (SkillTables.canonicalRelated first second).getD 0

/-- The word boundary between two characters. -/
def wordBoundary (before after : Option Char) : Bool :=
  before.any WordTables.isWord != after.any WordTables.isWord

/-- `re.search(r"\b" + re.escape(needle) + r"\b", haystack)`, after a character. -/
def searchWord (needle : List Char) : Option Char → List Char → Bool
  | before, [] => needle.isPrefixOf [] && wordBoundary before none && wordBoundary needle.getLast? none
  | before, letter :: rest =>
    (needle.isPrefixOf (letter :: rest) && wordBoundary before (some letter) &&
      wordBoundary needle.getLast? ((letter :: rest).drop needle.length).head?) ||
    searchWord needle (some letter) rest

/-- `_word_bounded_substring`. -/
def wordBoundedSubstring (needle haystack : String) : Bool :=
  needle ≠ "" && haystack ≠ "" && searchWord needle.toList none haystack.toList

/-- What the tiers find for a job skill. -/
structure Tiers where
  exact : Bool
  related : Rat
  similar : Rat
  contained : Rat

/-- What the tiers find in a profile. -/
def tiers (profileSkills : List String) (jobSkill : String) : Tiers :=
  let jobCanon := canonicalSkill jobSkill
  let jobRaw := normalizedTextToken (some jobSkill)
  let canonical := profileCanonical profileSkills
  { exact := canonical.contains jobCanon
    related := largest (canonical.flatMap fun profCanon =>
      [relatedWeight jobCanon profCanon, relatedWeight profCanon jobCanon])
    similar :=
      if SkillTables.embeddingEnabled then
        bestEmbeddingMatch jobSkill
          ((profileSkills.filter (· ≠ "")).map fun skill => normalizedTextToken (some skill))
      else 0
    contained :=
      if canonical.any fun profCanon => profCanon ≠ "" &&
          (wordBoundedSubstring jobRaw profCanon || wordBoundedSubstring profCanon jobRaw) then
        mkRat 3 10
      else 0 }

namespace Tiers

/-- The weight of the tiers after the taxonomy. -/
def late (tiers : Tiers) : Rat := if 0 < tiers.similar then tiers.similar else tiers.contained

/-- The weight of a job skill: that of the first tier that finds anything. -/
def weight (tiers : Tiers) : Rat :=
  if tiers.exact then 1 else if 0 < tiers.related then tiers.related else tiers.late

end Tiers

/-- `semantic_skills_score`. -/
def semanticSkillsScore (jobSkills profileSkills : List String) : Rat :=
  if jobSkills = [] ∨ profileSkills = [] then 0
  else
    let skills := jobSkills.filter (· ≠ "")
    if 0 < skills.length then
      (skills.map fun skill => (tiers profileSkills skill).weight).sum / skills.length
    else 0

/-! ### What reads the score -/

/-- The skill points of `compute_prescore`. -/
def skillPoints (skillMax : Rat) (jobSkills profileSkills : List String) : Rat :=
  if jobSkills ≠ [] ∧ profileSkills ≠ [] then semanticSkillsScore jobSkills profileSkills * skillMax
  else skillMax / 2

/-- The distinct skills of the lists of a profile, one list after the other. -/
def distinctSkills (profileSkills : List String) : List String :=
  (profileSkills.filter (· ≠ "")).dedup

/-- Is the job left out with `norm_skills_disjoint`? -/
def skillsDisjoint (jobSkills profileSkills : List String) : Prop :=
  3 ≤ (jobSkills.filter (· ≠ "")).length ∧ 3 ≤ (distinctSkills profileSkills).length ∧
    semanticSkillsScore (jobSkills.filter (· ≠ "")) (distinctSkills profileSkills) = 0

end

/-! ### The largest value -/

theorem largest_le_iff {values : List Rat} {bound : Rat} :
    largest values ≤ bound ↔ 0 ≤ bound ∧ ∀ value ∈ values, value ≤ bound := by
  unfold largest
  generalize (0 : Rat) = start
  induction values generalizing start with
  | nil => simp
  | cons first rest inductionHypothesis =>
    rw [List.foldl_cons, inductionHypothesis, max_le_iff, List.forall_mem_cons, and_assoc]

theorem largest_nonneg (values : List Rat) : 0 ≤ largest values :=
  (largest_le_iff.mp le_rfl).1

theorem largest_congr {values others : List Rat} (same : ∀ value, value ∈ values ↔ value ∈ others) :
    largest values = largest others := by
  refine eq_of_forall_ge_iff fun bound => ?_
  simp only [largest_le_iff, same]

theorem largest_append (values others : List Rat) :
    largest (values ++ others) = max (largest values) (largest others) := by
  refine eq_of_forall_ge_iff fun bound => ?_
  simp only [max_le_iff, largest_le_iff, List.forall_mem_append]
  exact ⟨fun ⟨low, one, two⟩ => ⟨⟨low, one⟩, low, two⟩,
    fun ⟨⟨low, one⟩, _, two⟩ => ⟨low, one, two⟩⟩

theorem roundSix_bounds {value : Rat} (low : 0 ≤ value) (high : value ≤ 1) :
    0 ≤ roundSix value ∧ roundSix value ≤ 1 := by
  have floorLow : 0 ≤ (value * 1000000).floor := Rat.le_floor_iff.mpr (by push_cast; linarith)
  have bound : ((value * 1000000).floor : Rat) ≤ value * 1000000 := Rat.floor_le _
  have rounded (count : Int) (nonneg : 0 ≤ count) (small : count ≤ 1000000) :
      0 ≤ mkRat count 1000000 ∧ mkRat count 1000000 ≤ 1 := by
    have nonneg : (0 : Rat) ≤ count := by exact_mod_cast nonneg
    have small : (count : Rat) ≤ 1000000 := by exact_mod_cast small
    rw [Rat.mkRat_eq_div]
    push_cast
    exact ⟨by positivity, by rw [div_le_one (by norm_num)]; exact small⟩
  unfold roundSix
  dsimp only
  refine rounded _ (by split <;> omega) ?_
  split
  · rename_i up
    have above : ((value * 1000000).floor : Rat) < 1000000 := by
      rcases up with more | ⟨half, -⟩ <;> linarith
    have above : (value * 1000000).floor < 1000000 := by exact_mod_cast above
    omega
  · have small : ((value * 1000000).floor : Rat) ≤ 1000000 := bound.trans (by linarith)
    exact_mod_cast small

/-! ### Tiers of two profiles -/

namespace Tiers

/-- Every weight lies between 0 and 1. -/
structure Fit (tiers : Tiers) : Prop where
  related : 0 ≤ tiers.related ∧ tiers.related ≤ 1
  similar : 0 ≤ tiers.similar ∧ tiers.similar ≤ 1
  contained : 0 ≤ tiers.contained ∧ tiers.contained ≤ 1

/-- What two profiles find together. -/
def join (tiers more : Tiers) : Tiers where
  exact := tiers.exact || more.exact
  related := max tiers.related more.related
  similar := max tiers.similar more.similar
  contained := max tiers.contained more.contained

/-- Does a first find of an earlier tier weigh less than what a later tier has found? -/
def Demotes (tiers more : Tiers) : Prop :=
  tiers.exact = false ∧ more.exact = false ∧ tiers.related = 0 ∧
    (0 < more.related ∧ more.related < tiers.late ∨
      more.related = 0 ∧ tiers.similar = 0 ∧ 0 < more.similar ∧ more.similar < tiers.contained)

theorem weight_bounds {tiers : Tiers} (fit : tiers.Fit) : 0 ≤ tiers.weight ∧ tiers.weight ≤ 1 := by
  unfold weight late
  split_ifs
  · exact ⟨zero_le_one, le_rfl⟩
  · exact fit.related
  · exact fit.similar
  · exact fit.contained

/-- The weight with another profile is no smaller, exactly when that demotes nothing. -/
theorem weight_le_join_iff {tiers more : Tiers} (fit : tiers.Fit) (other : more.Fit) :
    tiers.weight ≤ (tiers.join more).weight ↔ ¬Demotes tiers more := by
  have high := (weight_bounds fit).2
  have related := fit.related.1
  have similar := fit.similar.1
  have moreRelated := other.related.1
  have moreSimilar := other.similar.1
  have moreContained := other.contained.1
  by_cases known : tiers.exact
  · have both : (tiers.join more).weight = 1 := by simp [weight, join, known]
    exact iff_of_true (both ▸ high) fun ⟨unknown, _⟩ => by simp [known] at unknown
  by_cases found : more.exact
  · have both : (tiers.join more).weight = 1 := by simp [weight, join, found]
    exact iff_of_true (both ▸ high) fun ⟨_, unknown, _⟩ => by simp [found] at unknown
  · unfold Demotes join weight late
    simp only [known, found, Bool.or_false, Bool.false_eq_true, if_false, true_and]
    grind

end Tiers

/-! ### What the tiers find -/

section

variable [SkillTables]

theorem embeddingSkillSimilarity_bounds (first second : String) :
    0 ≤ embeddingSkillSimilarity first second ∧ embeddingSkillSimilarity first second ≤ 1 := by
  unfold embeddingSkillSimilarity
  dsimp only
  split_ifs
  · exact ⟨le_rfl, zero_le_one⟩
  · exact ⟨zero_le_one, le_rfl⟩
  generalize runs _ (normalizeSkill first) = left, runs _ (normalizeSkill second) = right
  have ratioLow := SkillTables.ratio_nonneg (String.ofList (normalizeSkill first))
    (String.ofList (normalizeSkill second))
  have ratioHigh := SkillTables.ratio_le_one (String.ofList (normalizeSkill first))
    (String.ofList (normalizeSkill second))
  have fewer : (left.dedup.filter (· ∈ right)).length ≤ max 1 (left ++ right).dedup.length := by
    refine le_trans ?_ (le_max_right _ _)
    refine ((List.nodup_dedup left).filter _).subperm (fun token member => ?_) |>.length_le
    exact List.mem_dedup.mpr (List.mem_append_left _
      (List.mem_dedup.mp (List.mem_of_mem_filter member)))
  have some : (0 : Rat) < (max 1 (left ++ right).dedup.length : Nat) :=
    Nat.cast_pos.mpr (lt_of_lt_of_le one_pos (le_max_left _ _))
  have nine : mkRat 9 10 = 9 / 10 := by rw [Rat.mkRat_eq_div]; norm_num
  rw [Rat.mkRat_eq_div, nine]
  have low : (0 : Rat) ≤ ((left.dedup.filter (· ∈ right)).length : Int) / _ :=
    div_nonneg (by positivity) some.le
  refine roundSix_bounds (low.trans (le_max_left _ _)) (max_le ?_ ?_)
  · rw [div_le_one some]
    exact_mod_cast fewer
  · linarith

theorem bestEmbeddingMatch_eq (querySkill : String) (candidateSkills : List String) :
    bestEmbeddingMatch querySkill candidateSkills =
      let best := largest ((candidateSkills.filter (· ≠ "")).map
        (embeddingSkillSimilarity querySkill))
      if querySkill ≠ "" ∧ SkillTables.embeddingThreshold ≤ best then best else 0 := by
  unfold bestEmbeddingMatch
  by_cases empty : querySkill = ""
  · simp [empty]
  cases candidateSkills with
  | nil => simp [largest]
  | cons first rest => simp [empty]

theorem bestEmbeddingMatch_congr {querySkill : String} {candidateSkills others : List String}
    (same : ∀ skill, skill ∈ others ↔ skill ∈ candidateSkills) :
    bestEmbeddingMatch querySkill others = bestEmbeddingMatch querySkill candidateSkills := by
  have best : largest ((others.filter (· ≠ "")).map (embeddingSkillSimilarity querySkill)) =
      largest ((candidateSkills.filter (· ≠ "")).map (embeddingSkillSimilarity querySkill)) :=
    largest_congr fun value => by simp only [List.mem_map, List.mem_filter, same]
  rw [bestEmbeddingMatch_eq, bestEmbeddingMatch_eq, best]

theorem fit_tiers (profileSkills : List String) (jobSkill : String) :
    (tiers profileSkills jobSkill).Fit where
  related := by
    refine ⟨largest_nonneg _, largest_le_iff.mpr ⟨zero_le_one, ?_⟩⟩
    have one (first second : String) : relatedWeight first second ≤ 1 := by
      unfold relatedWeight
      cases known : SkillTables.canonicalRelated first second with
      | none => exact zero_le_one
      | some weight => exact SkillTables.related_le_one first second weight known
    intro value member
    obtain ⟨name, -, inside⟩ := List.mem_flatMap.mp member
    rcases List.mem_cons.mp inside with rfl | last
    · exact one _ _
    · rw [List.mem_singleton.mp last]
      exact one _ _
  similar := by
    show 0 ≤ ite _ _ _ ∧ ite _ _ _ ≤ (1 : Rat)
    rw [bestEmbeddingMatch_eq]
    dsimp only
    split_ifs
    · refine ⟨largest_nonneg _, largest_le_iff.mpr ⟨zero_le_one, fun value member => ?_⟩⟩
      obtain ⟨skill, -, rfl⟩ := List.mem_map.mp member
      exact (embeddingSkillSimilarity_bounds jobSkill skill).2
    · exact ⟨le_rfl, zero_le_one⟩
    · exact ⟨le_rfl, zero_le_one⟩
  contained := by
    show 0 ≤ ite _ _ _ ∧ ite _ _ _ ≤ (1 : Rat)
    split_ifs
    · decide
    · decide

/-- Two profiles find together what each of them finds. -/
theorem tiers_append (profileSkills more : List String) (jobSkill : String) :
    tiers (profileSkills ++ more) jobSkill =
      (tiers profileSkills jobSkill).join (tiers more jobSkill) := by
  have names : profileCanonical (profileSkills ++ more) =
      profileCanonical profileSkills ++ profileCanonical more := by
    rw [profileCanonical, List.filter_append, List.map_append]
    rfl
  unfold tiers Tiers.join
  dsimp only
  rw [names, List.filter_append, List.map_append, List.flatMap_append, largest_append,
    List.any_append, bestEmbeddingMatch_eq, bestEmbeddingMatch_eq, bestEmbeddingMatch_eq,
    List.filter_append, List.map_append, largest_append]
  have low := largest_nonneg
  congr 1
  · simp
  · grind
  · have third : (0 : Rat) < mkRat 3 10 := by decide
    grind

/-- The tiers depend on what skills the profile has, not on their order or number. -/
theorem tiers_congr {profileSkills others : List String}
    (same : ∀ skill ≠ "", skill ∈ others ↔ skill ∈ profileSkills) (jobSkill : String) :
    tiers others jobSkill = tiers profileSkills jobSkill := by
  have kept (skill : String) :
      skill ∈ others.filter (· ≠ "") ↔ skill ∈ profileSkills.filter (· ≠ "") := by
    simp only [List.mem_filter, decide_eq_true_eq]
    exact ⟨fun ⟨member, solid⟩ => ⟨(same skill solid).mp member, solid⟩,
      fun ⟨member, solid⟩ => ⟨(same skill solid).mpr member, solid⟩⟩
  have names (name : String) :
      name ∈ profileCanonical others ↔ name ∈ profileCanonical profileSkills := by
    simp only [profileCanonical, List.mem_map, kept]
  have tokens : bestEmbeddingMatch jobSkill ((others.filter (· ≠ "")).map fun skill =>
      normalizedTextToken (some skill)) = bestEmbeddingMatch jobSkill
        ((profileSkills.filter (· ≠ "")).map fun skill => normalizedTextToken (some skill)) :=
    bestEmbeddingMatch_congr fun token => by simp only [List.mem_map, kept]
  unfold tiers
  dsimp only
  rw [tokens]
  congr 1
  · rw [Bool.eq_iff_iff, List.contains_iff_mem, List.contains_iff_mem, names]
  · exact largest_congr fun value => by simp only [List.mem_flatMap, names]
  · refine if_congr ?_ rfl rfl
    simp only [List.any_eq_true, names]

/-! ### The score -/

theorem semanticSkillsScore_bounds (jobSkills profileSkills : List String) :
    0 ≤ semanticSkillsScore jobSkills profileSkills ∧
      semanticSkillsScore jobSkills profileSkills ≤ 1 := by
  unfold semanticSkillsScore
  dsimp only
  split_ifs with none some
  · exact ⟨le_rfl, zero_le_one⟩
  · generalize jobSkills.filter (· ≠ "") = skills at some
    have bounds (skill : String) := Tiers.weight_bounds (fit_tiers profileSkills skill)
    have positive : (0 : Rat) < skills.length := Nat.cast_pos.mpr some
    constructor
    · refine div_nonneg (List.sum_nonneg fun value member => ?_) positive.le
      obtain ⟨skill, -, rfl⟩ := List.mem_map.mp member
      exact (bounds skill).1
    · rw [div_le_one positive]
      refine (List.sum_le_card_nsmul _ 1 fun value member => ?_).trans (by simp)
      obtain ⟨skill, -, rfl⟩ := List.mem_map.mp member
      exact (bounds skill).2
  · exact ⟨le_rfl, zero_le_one⟩

/-- Where no job skill loses weight, the score does not fall. -/
theorem semanticSkillsScore_le {jobSkills profileSkills others : List String}
    (some : others ≠ []) (less : ∀ skill ≠ "",
      (tiers profileSkills skill).weight ≤ (tiers others skill).weight) :
    semanticSkillsScore jobSkills profileSkills ≤ semanticSkillsScore jobSkills others := by
  by_cases none : jobSkills = [] ∨ profileSkills = []
  · rw [semanticSkillsScore, if_pos none]
    exact (semanticSkillsScore_bounds jobSkills others).1
  obtain ⟨jobs, -⟩ := not_or.mp none
  rw [semanticSkillsScore, semanticSkillsScore, if_neg none, if_neg (not_or.mpr ⟨jobs, some⟩)]
  dsimp only
  split_ifs
  · refine div_le_div_of_nonneg_right (List.sum_le_sum fun skill member => less skill ?_)
      (Nat.cast_nonneg _)
    exact of_decide_eq_true (List.mem_filter.mp member).2
  · exact le_rfl

theorem semanticSkillsScore_congr {profileSkills others : List String}
    (same : ∀ skill ≠ "", skill ∈ others ↔ skill ∈ profileSkills)
    (empty : others = [] ↔ profileSkills = []) (jobSkills : List String) :
    semanticSkillsScore jobSkills others = semanticSkillsScore jobSkills profileSkills := by
  unfold semanticSkillsScore
  simp only [empty, tiers_congr same]

theorem semanticSkillsScore_single {skill : String} {profileSkills : List String}
    (solid : skill ≠ "") (some : profileSkills ≠ []) :
    semanticSkillsScore [skill] profileSkills = (tiers profileSkills skill).weight := by
  simp [semanticSkillsScore, solid, some]

/-- A profile that has every skill of a job covers it. -/
theorem semanticSkillsScore_eq_one {jobSkills profileSkills : List String}
    (some : ∃ skill ∈ jobSkills, skill ≠ "")
    (covered : ∀ skill ∈ jobSkills, skill ≠ "" → skill ∈ profileSkills) :
    semanticSkillsScore jobSkills profileSkills = 1 := by
  obtain ⟨first, member, solid⟩ := some
  have inside : first ∈ jobSkills.filter (· ≠ "") :=
    List.mem_filter.mpr ⟨member, decide_eq_true solid⟩
  have positive : 0 < (jobSkills.filter (· ≠ "")).length := List.length_pos_of_mem inside
  rw [semanticSkillsScore, if_neg (not_or.mpr ⟨List.ne_nil_of_mem member,
    List.ne_nil_of_mem (covered first member solid)⟩)]
  dsimp only
  have ones : (jobSkills.filter (· ≠ "")).map (fun skill => (tiers profileSkills skill).weight) =
      (jobSkills.filter (· ≠ "")).map fun _ => 1 := by
    refine List.map_congr_left fun skill among => ?_
    obtain ⟨wanted, solid⟩ := List.mem_filter.mp among
    refine if_pos (List.contains_iff_mem.mpr (List.mem_map.mpr ⟨skill, ?_, rfl⟩))
    exact List.mem_filter.mpr ⟨covered skill wanted (of_decide_eq_true solid), solid⟩
  rw [if_pos positive, ones, List.map_const', List.sum_replicate, nsmul_one]
  exact div_self (Nat.cast_ne_zero.mpr positive.ne')

/-- Does an added skill demote no job skill? -/
def DemotesNothing (profileSkills : List String) (added : String) : Prop :=
  ∀ skill ≠ "", ¬(tiers profileSkills skill).Demotes (tiers [added] skill)

theorem demotesNothing_iff {profileSkills : List String} (some : profileSkills ≠ [])
    (added : String) : DemotesNothing profileSkills added ↔ ∀ jobSkills,
      semanticSkillsScore jobSkills profileSkills ≤
        semanticSkillsScore jobSkills (profileSkills ++ [added]) := by
  have weights (skill : String) : (tiers profileSkills skill).weight ≤
      (tiers (profileSkills ++ [added]) skill).weight ↔
        ¬(tiers profileSkills skill).Demotes (tiers [added] skill) := by
    rw [tiers_append]
    exact Tiers.weight_le_join_iff (fit_tiers _ _) (fit_tiers _ _)
  constructor
  · intro nothing jobSkills
    exact semanticSkillsScore_le (List.append_ne_nil_of_left_ne_nil some _)
      fun skill solid => (weights skill).mpr (nothing skill solid)
  · intro grows skill solid
    have here := grows [skill]
    rw [semanticSkillsScore_single solid some, semanticSkillsScore_single solid
      (List.append_ne_nil_of_left_ne_nil some _)] at here
    exact (weights skill).mp here

/-- The score lies between 0 and 1, does not depend on the order or the repetition of the skills of
the profile, and is 1 when the profile has every skill of a job that names some. An added skill
lowers no score exactly when it demotes nothing; then it lowers no skill points and makes no job
disjoint, unless the profile had fewer than three skills. -/
theorem semantic_skills_score (profileSkills : List String) :
    (∀ jobSkills, 0 ≤ semanticSkillsScore jobSkills profileSkills ∧
      semanticSkillsScore jobSkills profileSkills ≤ 1) ∧
    (∀ others, (∀ skill, skill ∈ others ↔ skill ∈ profileSkills) → ∀ jobSkills,
      semanticSkillsScore jobSkills others = semanticSkillsScore jobSkills profileSkills) ∧
    (∀ jobSkills, (∃ skill ∈ jobSkills, skill ≠ "") →
      (∀ skill ∈ jobSkills, skill ≠ "" → skill ∈ profileSkills) →
        semanticSkillsScore jobSkills profileSkills = 1) ∧
    (profileSkills ≠ [] → ∀ added, (DemotesNothing profileSkills added ↔ ∀ jobSkills,
      semanticSkillsScore jobSkills profileSkills ≤
        semanticSkillsScore jobSkills (profileSkills ++ [added]))) ∧
    (profileSkills ≠ [] → ∀ added, DemotesNothing profileSkills added → ∀ jobSkills,
      (∀ skillMax, 0 ≤ skillMax → skillPoints skillMax jobSkills profileSkills ≤
        skillPoints skillMax jobSkills (profileSkills ++ [added])) ∧
      (3 ≤ (distinctSkills profileSkills).length →
        skillsDisjoint jobSkills (profileSkills ++ [added]) →
          skillsDisjoint jobSkills profileSkills)) := by
  refine ⟨fun jobSkills => semanticSkillsScore_bounds jobSkills profileSkills,
    fun others same jobSkills => ?_, fun jobSkills => semanticSkillsScore_eq_one,
    demotesNothing_iff, fun some added nothing jobSkills => ?_⟩
  · refine semanticSkillsScore_congr (fun skill _ => same skill) ?_ jobSkills
    simp only [List.eq_nil_iff_forall_not_mem, same]
  have grows := (demotesNothing_iff some added).mp nothing
  have more : profileSkills ++ [added] ≠ [] := List.append_ne_nil_of_left_ne_nil some _
  constructor
  · intro skillMax nonneg
    by_cases named : jobSkills = []
    · simp [skillPoints, named]
    · rw [skillPoints, skillPoints, if_pos ⟨named, some⟩, if_pos ⟨named, more⟩]
      exact mul_le_mul_of_nonneg_right (grows jobSkills) nonneg
  · rintro three ⟨jobs, -, disjoint⟩
    refine ⟨jobs, three, le_antisymm ?_ (semanticSkillsScore_bounds _ _).1⟩
    have distinct {skills : List String} (solid : distinctSkills skills ≠ [])
        (some : skills ≠ []) : semanticSkillsScore (jobSkills.filter (· ≠ ""))
          (distinctSkills skills) = semanticSkillsScore (jobSkills.filter (· ≠ "")) skills :=
      semanticSkillsScore_congr (fun skill solid => by simp [distinctSkills, solid])
        (iff_of_false solid some) _
    have before : distinctSkills profileSkills ≠ [] :=
      List.ne_nil_of_length_pos (lt_of_lt_of_le three_pos three)
    have after : distinctSkills (profileSkills ++ [added]) ≠ [] := by
      obtain ⟨skill, member⟩ := List.exists_mem_of_ne_nil _ before
      have kept : skill ∈ distinctSkills (profileSkills ++ [added]) := by
        rw [distinctSkills, List.filter_append]
        exact List.mem_dedup.mpr (List.mem_append_left _ (List.mem_dedup.mp member))
      exact List.ne_nil_of_mem kept
    rw [distinct before some]
    exact (grows _).trans (distinct after more ▸ disjoint.le)

end

/-! ### A related skill in the place of a similar one -/

/-- The taxonomy of two skills, with the similarity of skills on. -/
@[reducible] def SkillTables.golang : SkillTables where
  toListingTexts := ListingTexts.plain
  aliasToCanonical _ := none
  canonicalRelated first second :=
    if first = "golang" ∧ second = "docker" then some (mkRat 1 2) else none
  embeddingEnabled := true
  embeddingThreshold := mkRat 65 100
  isAlnum letter := letter.isAlphanum
  ratio left right :=
    if left = right then 1
    else if left = "golang" ∧ right = "golangs" then mkRat 12 13
    else mkRat 1 6
  related_le_one first second weight known := by
    split at known
    · obtain rfl := Option.some.inj known
      decide
    · cases known
  ratio_nonneg left right := by split_ifs <;> decide
  ratio_le_one left right := by split_ifs <;> decide

section

attribute [local instance] SkillTables.golang

/-- A skill that is faintly related to a job skill lowers the score of a profile that names it in
the plural. -/
theorem golang_demoted :
    ¬∀ [SkillTables] (jobSkills profileSkills : List String) (added : String),
      profileSkills ≠ [] → semanticSkillsScore jobSkills profileSkills ≤
        semanticSkillsScore jobSkills (profileSkills ++ [added]) := by
  intro grows
  have here := @grows SkillTables.golang ["golang"] ["golangs"] "docker" (by decide)
  rw [semanticSkillsScore_single (by decide) (by decide),
    semanticSkillsScore_single (by decide) (by decide)] at here
  revert here
  decide +kernel

end

end CareerOS
