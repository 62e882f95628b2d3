/-
This file says what a merged section holds when the other side is a generated one.
A career section keeps the blocks without facts and those that rest on a fact which
is still generated, and takes over the generated blocks whose fact no block rests
on; an identity or summary section keeps all its blocks, each with the content of
the one generated block.
-/

import CareerOS.Resumes.Sync

namespace CareerOS

open Distinct

/-! ### The last block of a fact -/

namespace CanvasSection

/-- The last fact block that rests on the fact. -/
def lastBlock (part : CanvasSection) (fact : String) : Option CanvasBlock :=
  part.blocks.reverse.find? fun block => block.kind = .fact ∧ fact ∈ block.factIds

/-- Some block rests on the fact. -/
def Refers (part : CanvasSection) (fact : String) : Prop :=
  ∃ block ∈ part.blocks, fact ∈ block.factIds

instance (part : CanvasSection) (fact : String) : Decidable (part.Refers fact) :=
  inferInstanceAs (Decidable (∃ block ∈ part.blocks, _))

end CanvasSection

theorem lookup_blockFacts (block : CanvasBlock) (fact : String) :
    Dict.lookup fact (block.factIds.map fun id => (id, block)).reverse =
      if fact ∈ block.factIds then some block else none := by
  rw [← List.map_reverse]
  split
  · next inside =>
    exact Dict.lookup_map_of_mem (List.mem_reverse.mpr inside) fun _ => block
  · next outside =>
    unfold Dict.lookup
    rw [Option.map_eq_none_iff, List.find?_eq_none]
    intro item member same
    obtain ⟨id, inside, rfl⟩ := List.mem_map.mp member
    obtain rfl := of_decide_eq_true same
    exact outside (List.mem_reverse.mp inside)

theorem lookup_blocksFacts (blocks : List CanvasBlock) (fact : String) :
    Dict.lookup fact (blocks.flatMap fun block =>
        block.factIds.map fun id => (id, block)).reverse =
      blocks.reverse.find? fun block => fact ∈ block.factIds := by
  induction blocks using List.reverseRecOn with
  | nil => rfl
  | append_singleton blocks block inductionHypothesis =>
    rw [List.flatMap_append, List.reverse_append, Dict.lookup_append, List.flatMap_singleton,
      lookup_blockFacts, inductionHypothesis, List.reverse_append, List.reverse_singleton,
      List.singleton_append, List.find?_cons]
    split
    · next inside => rw [decide_eq_true inside, Option.some_or]
    · next outside => rw [decide_eq_false outside, Option.none_or]

/-- `_by_fact` holds the last block of every fact. -/
theorem lookup_byFact (part : CanvasSection) (fact : String) :
    Dict.lookup fact (byFact (some part)) = part.lastBlock fact := by
  unfold byFact CanvasSection.lastBlock
  rw [Dict.lookup_assignAll, lookup_blocksFacts, Dict.lookup_nil, Option.or_none,
    ← List.filter_reverse, List.find?_filter]
  congr 1
  funext block
  simp only [decide_eq_true_eq, decide_eq_decide]
  constructor
  · rintro ⟨⟨-, fact⟩, inside⟩
    exact ⟨fact, inside⟩
  · rintro ⟨fact, inside⟩
    exact ⟨⟨List.ne_nil_of_mem inside, fact⟩, inside⟩

variable {block : CanvasBlock}

namespace CanvasSection

variable {part : CanvasSection}

theorem lastBlock_some {fact : String} (found : part.lastBlock fact = some block) :
    block ∈ part.blocks ∧ block.kind = .fact ∧ fact ∈ block.factIds := by
  unfold lastBlock at found
  have kept := List.find?_some found
  rw [decide_eq_true_eq] at kept
  exact ⟨List.mem_reverse.mp (List.mem_of_find?_eq_some found), kept.1, kept.2⟩

theorem exists_lastBlock {fact : String}
    (member : block ∈ part.blocks) (kind : block.kind = .fact) (inside : fact ∈ block.factIds) :
    ∃ last, part.lastBlock fact = some last := by
  refine Option.isSome_iff_exists.mp (List.find?_isSome.mpr ⟨block, ?_, ?_⟩)
  · exact List.mem_reverse.mpr member
  · exact decide_eq_true ⟨kind, inside⟩

/-- A section whose blocks are all fact blocks knows the facts it refers to. -/
theorem mem_keys_byFact_iff (facts : ∀ block ∈ part.blocks, block.kind = .fact) (fact : String) :
    fact ∈ Dict.keys (byFact (some part)) ↔ part.Refers fact := by
  rw [Dict.mem_keys_iff, lookup_byFact]
  constructor
  · rintro ⟨block, found⟩
    obtain ⟨member, -, inside⟩ := lastBlock_some found
    exact ⟨block, member, inside⟩
  · rintro ⟨block, member, inside⟩
    exact exists_lastBlock member (facts block member) inside

/-- A section without fact blocks knows no facts. -/
theorem byFact_eq_nil
    (others : ∀ block ∈ part.blocks, block.kind ≠ .fact) : byFact (some part) = [] := by
  have none : (part.blocks.filter fun block => block.factIds ≠ [] ∧ block.kind = .fact) = [] :=
    List.filter_eq_nil_iff.mpr fun block member kept =>
      others block member (of_decide_eq_true kept).2
  simp only [byFact, none]
  rfl

/-- The generated block a block is merged with. -/
def matching (new : CanvasSection) (old : CanvasBlock) : Option CanvasBlock :=
  old.factIds.findSome? new.lastBlock

theorem matchingBlock_byFact (new : CanvasSection) (old : CanvasBlock) :
    matchingBlock (byFact (some new)) old = new.matching old := by
  unfold matchingBlock matching
  exact congrArg (fun find => old.factIds.findSome? find) (funext fun id => lookup_byFact new id)

end CanvasSection

/-! ### Merged blocks -/

/-- A section of an edited canvas and the generated section of its kind. -/
structure Merging (old new : CanvasSection) : Prop where
  oldValid : old.Valid
  oldAllowed : ∀ block ∈ old.blocks, block.kind = old.kind.blockKind
  generated : new.Generated
  newAllowed : ∀ block ∈ new.blocks, block.kind = new.kind.blockKind
  sameKind : new.kind = old.kind

/-- What a career section makes of a block it had. -/
def careerBlock (new : CanvasSection) (old : CanvasBlock) : Option CanvasBlock :=
  if old.factIds = [] then some old
  else (new.matching old).map fun matching =>
    mergedBlock old matching (Dict.keys (byFact (some new)))

/-- The blocks of a merged section. -/
def syncedBlocks (old new : CanvasSection) : List CanvasBlock :=
  match new.kind with
  | .career _ => old.blocks.filterMap (careerBlock new) ++
      new.blocks.filter fun block => ∀ id ∈ block.factIds, ¬old.Refers id
  | _ => if old.blocks = [] then new.blocks
    else old.blocks.filterMap fun block =>
      new.blocks.head?.map fun first => mergedBlock block first []

/-- The blocks of a merged career section. -/
theorem syncedBlocks_career {new : CanvasSection} {kind : CareerKind}
    (career : new.kind = .career kind) (old : CanvasSection) : syncedBlocks old new =
    old.blocks.filterMap (careerBlock new) ++
      new.blocks.filter fun block => ∀ id ∈ block.factIds, ¬old.Refers id := by
  unfold syncedBlocks
  rw [career]

variable {first : CanvasBlock}

/-- The blocks of a merged identity or summary section. -/
theorem syncedBlocks_single {new : CanvasSection} (single : ∀ kind, new.kind ≠ .career kind)
    (one : new.blocks = [first]) (old : CanvasSection) :
    syncedBlocks old new =
      if old.blocks = [] then new.blocks
      else old.blocks.map fun block => mergedBlock block first [] := by
  unfold syncedBlocks
  split
  · next kind career => exact absurd career (single kind)
  · rw [one]
    simp only [List.head?_cons, Option.map_some]
    exact congrArg _ (congrFun List.filterMap_eq_map old.blocks)

theorem mergedBlock_valid {old new : CanvasBlock} {allowed : List String} (oldValid : old.Valid)
    (newValid : new.Valid) (few : (mergedBlock old new allowed).factIds.length ≤ 100)
    (identity : new.kind = .identity → (mergedBlock old new allowed).factIds = []) :
    (mergedBlock old new allowed).Valid where
  id := oldValid.id
  fewFacts := few
  canonical := fun id member => by
    rcases List.mem_append.mp (mem_firsts.mp member) with generated | kept
    · exact newValid.canonical id generated
    · exact oldValid.canonical id (List.mem_of_mem_filter kept)
  distinctFacts := nodup_firsts _
  content := CanvasContent.valid_overlay newValid.content oldValid.content _
  fewFields := oldValid.fewFields
  distinctFields := oldValid.distinctFields
  layout := oldValid.layout
  identity := identity

namespace Merging

variable {old new : CanvasSection} (merging : Merging old new) {kind : CareerKind}

include merging

theorem newFacts (career : new.kind = .career kind) :
    ∀ block ∈ new.blocks, block.kind = .fact := fun block member => by
  rw [merging.newAllowed block member, career]
  rfl

theorem oldFacts (career : new.kind = .career kind) :
    ∀ block ∈ old.blocks, block.kind = .fact := fun block member => by
  rw [merging.oldAllowed block member, ← merging.sameKind, career]
  rfl

/-- A generated career block rests on one fact. -/
theorem factIds_new (career : new.kind = .career kind)
    (member : block ∈ new.blocks) : ∃ fact, block.factIds = [fact] := by
  have shape := merging.generated.shape
  rw [career] at shape
  exact shape.2 block member

variable {block matching : CanvasBlock}

/-- The first fact that is still generated is the fact of the matching block. -/
theorem matching_some (career : new.kind = .career kind)
    (found : new.matching block = some matching) :
    matching ∈ new.blocks ∧ ∃ before fact after, block.factIds = before ++ fact :: after ∧
      matching.factIds = [fact] ∧ new.lastBlock fact = some matching ∧
      ∀ earlier ∈ before, ¬new.Refers earlier := by
  obtain ⟨before, fact, after, split, last, others⟩ := List.findSome?_eq_some_iff.mp found
  obtain ⟨member, -, inside⟩ := CanvasSection.lastBlock_some last
  obtain ⟨only, facts⟩ := merging.factIds_new career member
  rw [facts, List.mem_singleton] at inside
  refine ⟨member, before, fact, after, split, inside ▸ facts, last, fun earlier early => ?_⟩
  rintro ⟨other, otherMember, refers⟩
  obtain ⟨last, found⟩ := CanvasSection.exists_lastBlock otherMember
    (merging.newFacts career other otherMember) refers
  rw [others earlier early] at found
  cases found

/-- A block is matched when one of its facts is still generated. -/
theorem exists_matching (career : new.kind = .career kind) {fact : String}
    (inside : fact ∈ block.factIds) (refers : new.Refers fact) :
    ∃ matching, new.matching block = some matching := by
  obtain ⟨other, member, refers⟩ := refers
  obtain ⟨last, found⟩ := CanvasSection.exists_lastBlock member
    (merging.newFacts career other member) refers
  refine Option.isSome_iff_exists.mp (List.findSome?_isSome_iff.mpr ⟨fact, inside, ?_⟩)
  rw [found]
  rfl

/-- A merged career block rests on the facts of the old block that are still generated. -/
theorem mem_factIds_merged (career : new.kind = .career kind)
    (found : new.matching block = some matching) (fact : String) :
    fact ∈ (mergedBlock block matching (Dict.keys (byFact (some new)))).factIds ↔
      fact ∈ block.factIds ∧ new.Refers fact := by
  obtain ⟨member, before, first, after, split, facts, -, -⟩ := merging.matching_some career found
  unfold mergedBlock
  rw [mem_firsts, List.mem_append, List.mem_filter, decide_eq_true_eq,
    CanvasSection.mem_keys_byFact_iff (merging.newFacts career), facts, List.mem_singleton]
  constructor
  · rintro (rfl | kept)
    · refine ⟨split ▸ List.mem_append_right _ List.mem_cons_self, matching, member, ?_⟩
      rw [facts]
      exact List.mem_singleton_self _
    · exact kept
  · exact .inr

/-- What a career section carries over rests on the facts both sections have. -/
theorem mem_carriedFacts (career : new.kind = .career kind) (fact : String) :
    fact ∈ (old.blocks.filterMap (careerBlock new)).flatMap CanvasBlock.factIds ↔
      old.Refers fact ∧ new.Refers fact := by
  simp only [List.mem_flatMap, List.mem_filterMap, careerBlock]
  constructor
  · rintro ⟨merged, ⟨block, member, carried⟩, inside⟩
    split at carried
    · next empty =>
      obtain rfl := Option.some.inj carried
      rw [empty] at inside
      cases inside
    · obtain ⟨matching, found, rfl⟩ := Option.map_eq_some_iff.mp carried
      obtain ⟨here, still⟩ := (merging.mem_factIds_merged career found fact).mp inside
      exact ⟨⟨block, member, here⟩, still⟩
  · rintro ⟨⟨block, member, inside⟩, still⟩
    obtain ⟨matching, found⟩ := merging.exists_matching career inside still
    refine ⟨_, ⟨block, member, ?_⟩,
      (merging.mem_factIds_merged career found fact).mpr ⟨inside, still⟩⟩
    rw [if_neg (List.ne_nil_of_mem inside), found]
    rfl

theorem merged_valid (career : new.kind = .career kind)
    (member : block ∈ old.blocks) (found : new.matching block = some matching) :
    (mergedBlock block matching (Dict.keys (byFact (some new)))).Valid := by
  have valid := merging.oldValid.blocks block member
  obtain ⟨inNew, -⟩ := merging.matching_some career found
  have subset : (mergedBlock block matching (Dict.keys (byFact (some new)))).factIds ⊆
      block.factIds := fun id inside =>
    ((merging.mem_factIds_merged career found id).mp inside).1
  have few := (((nodup_firsts _).subperm subset).length_le).trans valid.fewFacts
  refine mergedBlock_valid valid (merging.generated.valid.blocks matching inNew) few ?_
  intro identity
  rw [merging.newFacts career matching inNew] at identity
  cases identity

/-- A block of an identity or summary section takes the facts of the generated one. -/
theorem factIds_single (one : new.blocks = [first]) (block : CanvasBlock) :
    (mergedBlock block first []).factIds = first.factIds := by
  have valid := merging.generated.valid.blocks first (one ▸ List.mem_singleton_self first)
  have none : (block.factIds.filter fun id => id ∈ ([] : List String)) = [] :=
    List.filter_eq_nil_iff.mpr fun id _ inside =>
      absurd (of_decide_eq_true inside) List.not_mem_nil
  simp only [mergedBlock]
  rw [none, List.append_nil, firsts_of_nodup valid.distinctFacts]

theorem single_valid (one : new.blocks = [first])
    (member : block ∈ old.blocks) : (mergedBlock block first []).Valid := by
  have valid := merging.generated.valid.blocks first (one ▸ List.mem_singleton_self first)
  have facts := merging.factIds_single one block
  refine mergedBlock_valid (merging.oldValid.blocks block member) valid ?_ ?_
  · rw [facts]
    exact valid.fewFacts
  · intro identity
    rw [facts]
    exact valid.identity identity

/-- An identity or summary section is generated with one block. -/
theorem exists_single (single : ∀ kind, new.kind ≠ .career kind) :
    ∃ first, new.blocks = [first] := by
  have shape := merging.generated.shape
  cases kindOf : new.kind with
  | identity =>
    rw [kindOf] at shape
    exact shape
  | summary =>
    rw [kindOf] at shape
    exact shape
  | career kind => exact absurd kindOf (single kind)

theorem career_or_single : (∃ kind, new.kind = .career kind) ∨
    (∀ kind, new.kind ≠ .career kind) ∧ ∃ first, new.blocks = [first] := by
  by_cases careers : ∃ kind, new.kind = .career kind
  · exact .inl careers
  · have single : ∀ kind, new.kind ≠ .career kind := fun kind career => careers ⟨kind, career⟩
    exact .inr ⟨single, merging.exists_single single⟩

variable [UuidReader]

theorem carryBlock_career (career : new.kind = .career kind)
    (member : block ∈ old.blocks) : carryBlock new block =
      .ok ((careerBlock new block).map fun merged => (merged, merged.factIds)) := by
  have fact := merging.oldFacts career block member
  unfold carryBlock careerBlock
  simp only [CanvasSection.matchingBlock_byFact]
  by_cases empty : block.factIds = []
  · have ungrounded : block.Ungrounded := ⟨fact, empty⟩
    rw [if_pos ungrounded, if_pos empty]
    simp only [Option.map_some, empty]
    rfl
  · rw [if_neg fun ungrounded => empty ungrounded.2, if_neg empty]
    cases found : new.matching block with
    | none =>
      have other : ¬(block.kind = .identity ∨ block.kind = .summary) := by
        rw [fact]
        decide
      simp only [if_neg other]
      rfl
    | some matching =>
      have mergedValid := merging.merged_valid career member found
      simp only [mergeBlock, CanvasBlock.read_self mergedValid]
      rfl

theorem carryBlock_single (single : ∀ kind, new.kind ≠ .career kind)
    (one : new.blocks = [first]) (member : block ∈ old.blocks) :
    carryBlock new block = .ok (some (mergedBlock block first [], first.factIds)) := by
  have kindOf : block.kind = .identity ∨ block.kind = .summary := by
    rw [merging.oldAllowed block member, ← merging.sameKind]
    cases shape : new.kind with
    | identity => exact .inl rfl
    | summary => exact .inr rfl
    | career kind => exact absurd shape (single kind)
  have others : byFact (some new) = [] := CanvasSection.byFact_eq_nil fun other inside => by
    rw [merging.newAllowed other inside]
    cases shape : new.kind with
    | identity => decide
    | summary => decide
    | career kind => exact absurd shape (single kind)
  have mergedValid := merging.single_valid one member
  have grounded : ¬block.Ungrounded := fun ungrounded => by
    rcases kindOf with identity | summary
    · rw [ungrounded.1] at identity
      cases identity
    · rw [ungrounded.1] at summary
      cases summary
  have unmatched : matchingBlock ([] : Dict String CanvasBlock) block = none :=
    List.findSome?_eq_none_iff.mpr fun id _ => rfl
  unfold carryBlock
  simp only [others, if_neg grounded, unmatched, if_pos kindOf, one, Dict.keys, List.map_nil,
    mergeBlock, CanvasBlock.read_self mergedValid]
  rfl

omit [UuidReader] in
/-- The generated blocks no carried block uses are those whose fact the old section lacks. -/
theorem unusedBlocks_carried (career : new.kind = .career kind) :
    unusedBlocks new ((old.blocks.filterMap (careerBlock new)).flatMap CanvasBlock.factIds) =
      new.blocks.filter fun block => ∀ id ∈ block.factIds, ¬old.Refers id := by
  unfold unusedBlocks
  refine List.filter_congr fun block member => decide_eq_decide.mpr ?_
  obtain ⟨fact, facts⟩ := merging.factIds_new career member
  have refers : new.Refers fact := ⟨block, member, facts ▸ List.mem_singleton_self fact⟩
  rw [facts]
  simp only [merging.newFacts career block member, true_and, List.head?_cons, Option.mem_some_iff,
    exists_eq_left', List.forall_mem_singleton, merging.mem_carriedFacts career, refers, and_true]

theorem carried_career (career : new.kind = .career kind) :
    old.blocks.mapM (carryBlock new) = .ok (old.blocks.map fun block =>
      (careerBlock new block).map fun merged => (merged, merged.factIds)) := by
  refine mapM_ok_iff_forall₂.mpr (List.forall₂_map_right_iff.mpr (List.forall₂_same.mpr ?_))
  exact fun block member => merging.carryBlock_career career member

theorem carried_single (single : ∀ kind, new.kind ≠ .career kind)
    (one : new.blocks = [first]) : old.blocks.mapM (carryBlock new) =
      .ok (old.blocks.map fun block => some (mergedBlock block first [], first.factIds)) := by
  refine mapM_ok_iff_forall₂.mpr (List.forall₂_map_right_iff.mpr (List.forall₂_same.mpr ?_))
  exact fun block member => merging.carryBlock_single single one member

omit [UuidReader] in
/-- A merged career section is never empty. -/
theorem synced_ne_nil (career : new.kind = .career kind) :
    old.blocks.filterMap (careerBlock new) ++
      (new.blocks.filter fun block => ∀ id ∈ block.factIds, ¬old.Refers id) ≠ [] := by
  have shape := merging.generated.shape
  rw [career] at shape
  obtain ⟨block, rest, split⟩ := List.exists_cons_of_ne_nil shape.1
  have member : block ∈ new.blocks := split ▸ List.mem_cons_self
  obtain ⟨fact, facts⟩ := merging.factIds_new career member
  intro empty
  obtain ⟨noneCarried, noneAdded⟩ := List.append_eq_nil_iff.mp empty
  by_cases refers : old.Refers fact
  · have still : new.Refers fact := ⟨block, member, facts ▸ List.mem_singleton_self fact⟩
    have carried := (merging.mem_carriedFacts career fact).mpr ⟨refers, still⟩
    rw [noneCarried] at carried
    cases carried
  · refine List.filter_eq_nil_iff.mp noneAdded block member (decide_eq_true ?_)
    rw [facts]
    exact List.forall_mem_singleton.mpr refers

/-- A merged section has the head of the old one and the synced blocks. -/
theorem mergeSection_eq : mergeSection old (some new) =
    (CanvasSection.make { old with blocks := syncedBlocks old new }).map some := by
  have finish (blocks : List CanvasBlock) : (do
      let merged ← CanvasSection.make {
        id := old.id
        kind := new.kind
        title := old.title
        visible := old.visible
        pageBreakBefore := old.pageBreakBefore
        blocks := blocks }
      return some merged) = (CanvasSection.make { old with blocks := blocks }).map some := by
    rw [merging.sameKind]
    rfl
  unfold mergeSection
  obtain ⟨kind, career⟩ | ⟨single, first, only⟩ := merging.career_or_single
  · have kept : (old.blocks.map fun block => (careerBlock new block).map fun merged =>
        (merged, merged.factIds)).reduceOption =
          (old.blocks.filterMap (careerBlock new)).map fun merged => (merged, merged.factIds) := by
      rw [List.reduceOption, List.filterMap_map, List.map_filterMap]
      rfl
    have blocks := syncedBlocks_career career old
    have ordered := merging.synced_ne_nil career
    simp only [merging.carried_career career, kept, bind, Except.bind, List.map_map,
      List.flatMap_map, Function.comp_def, List.map_id', merging.unusedBlocks_carried career,
      if_neg ordered, blocks]
    exact finish _
  · have kept : (old.blocks.map fun block =>
        some (mergedBlock block first [], first.factIds)).reduceOption =
          old.blocks.map fun block => (mergedBlock block first [], first.factIds) := by
      rw [List.reduceOption, List.filterMap_map]
      exact congrFun List.filterMap_eq_map old.blocks
    have unused (used : List String) : unusedBlocks new used = [] :=
      List.filter_eq_nil_iff.mpr fun block member kept => by
        have fact := (of_decide_eq_true kept).1
        rw [merging.newAllowed block member] at fact
        cases kindOf : new.kind with
        | identity => rw [kindOf] at fact; cases fact
        | summary => rw [kindOf] at fact; cases fact
        | career kind => exact single kind kindOf
    have blocks := syncedBlocks_single single only old
    simp only [merging.carried_single single only, kept, bind, Except.bind, List.map_map,
      Function.comp_def, unused, List.append_nil, List.map_eq_nil_iff, blocks]
    exact finish _

end Merging

end CareerOS
