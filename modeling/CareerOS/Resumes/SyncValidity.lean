/-
This file says when a synchronization returns. The document it builds has the
sections that are kept and the generated ones that are new, and it is refused when
the two do not go together: when nothing is left, when a title is blank, when a
generated identifier is one the owner's canvas already uses, or when there are too
many blocks. Whatever is returned is valid.
-/

import CareerOS.Resumes.SyncMerge

namespace CareerOS

open CanvasDocument

/-! ### Documents with their sections -/

variable {part : CanvasSection} {document : CanvasDocument}

theorem sectionOf_some {kind : SectionKind} (found : sectionOf document kind = some part) :
    part ∈ document.sections ∧ part.kind = kind := by
  unfold sectionOf at found
  have same := List.find?_some found
  rw [decide_eq_true_eq] at same
  exact ⟨List.mem_reverse.mp (List.mem_of_find?_eq_some found), same⟩

theorem exists_sectionOf
    (member : part ∈ document.sections) : ∃ found, sectionOf document part.kind = some found :=
  Option.isSome_iff_exists.mp (List.find?_isSome.mpr
    ⟨part, List.mem_reverse.mpr member, decide_eq_true rfl⟩)

variable {sections : List CanvasSection}

/-- Sections of one kind are one section. -/
theorem CanvasDocument.Consistent.eq_of_kind
    (consistent : CanvasDocument.Consistent sections) {first second : CanvasSection}
    (one : first ∈ sections)
    (other : second ∈ sections) (same : first.kind = second.kind) : first = second :=
  List.inj_on_of_nodup_map consistent.sectionKinds one other same

theorem sectionOf_of_mem (consistent : CanvasDocument.Consistent document.sections)
    (member : part ∈ document.sections) :
    sectionOf document part.kind = some part := by
  obtain ⟨found, here⟩ := exists_sectionOf member
  obtain ⟨inside, same⟩ := sectionOf_some here
  rw [here, consistent.eq_of_kind inside member same]

/-- A block identifier names one block of one section. -/
theorem CanvasDocument.Consistent.eq_of_id
    (consistent : CanvasDocument.Consistent sections) {first second : CanvasSection}
    {one other : CanvasBlock}
    (inFirst : first ∈ sections) (inSecond : second ∈ sections) (oneMember : one ∈ first.blocks)
    (otherMember : other ∈ second.blocks) (same : one.id = other.id) : first = second := by
  have distinct := consistent.blockIds
  rw [List.map_flatMap, List.nodup_flatMap] at distinct
  by_contra different
  have : Std.Symm (Function.onFun List.Disjoint fun part : CanvasSection =>
    part.blocks.map CanvasBlock.id) := ⟨fun _ _ apart _ one other => apart other one⟩
  have apart := distinct.2.forall inFirst inSecond different
  exact apart (List.mem_map_of_mem oneMember) (same ▸ List.mem_map_of_mem otherMember)

variable {old new : CanvasSection}

theorem merging_of_sectionOf {current generated : CanvasDocument} (valid : current.Valid)
    (shaped : generated.Generated) (member : old ∈ current.sections)
    (found : sectionOf generated old.kind = some new) : Merging old new where
  oldValid := valid.sections old member
  oldAllowed := valid.consistent.allowed old member
  generated := shaped.sections new (sectionOf_some found).1
  newAllowed := shaped.valid.consistent.allowed new (sectionOf_some found).1
  sameKind := (sectionOf_some found).2

/-! ### The sections of the outcome -/

/-- What is left of a section of the edited canvas. -/
def syncedSection (generated : CanvasDocument) (selectedKinds : List SectionKind)
    (old : CanvasSection) : Option CanvasSection :=
  if old.kind ∈ selectedKinds then
    match sectionOf generated old.kind with
    | none =>
      let ungrounded := old.blocks.filter fun block => block.Ungrounded
      if ungrounded = [] then none else some { old with blocks := ungrounded }
    | some new => some { old with blocks := syncedBlocks old new }
  else some old

/-- The sections of the synchronized canvas. -/
def syncedSections (current generated : CanvasDocument) (selectedKinds : List SectionKind) :
    List CanvasSection :=
  current.sections.filterMap (syncedSection generated selectedKinds) ++
    newSections current generated selectedKinds

/-- A section that is merged has a title and leaves few blocks. -/
def Mergeable (generated : CanvasDocument) (selectedKinds : List SectionKind)
    (old : CanvasSection) : Prop :=
  old.kind ∈ selectedKinds → ∀ new, sectionOf generated old.kind = some new →
    old.title ≠ "" ∧ (syncedBlocks old new).length ≤ 300

section

variable [UuidReader] {current generated : CanvasDocument} (valid : current.Valid)
  (shaped : generated.Generated) {selectedKinds : List SectionKind}

include valid shaped

theorem syncSection_ok_iff {old : CanvasSection} (member : old ∈ current.sections)
    {outcome : Option CanvasSection} : syncSection generated selectedKinds old = .ok outcome ↔
      Mergeable generated selectedKinds old ∧
        syncedSection generated selectedKinds old = outcome := by
  unfold syncSection syncedSection Mergeable
  by_cases selected : old.kind ∈ selectedKinds
  · simp only [if_pos selected]
    cases found : sectionOf generated old.kind with
    | none =>
      have same (blocks : List CanvasBlock) : (pure (if blocks = [] then none
          else some { old with blocks := blocks }) : Except String (Option CanvasSection)) =
            .ok outcome ↔ (if blocks = [] then none else some { old with blocks := blocks }) =
              outcome := pure_ok_iff
      simp only [mergeSection, same]
      refine ⟨fun outcomeIs => ⟨fun _ new impossible => ?_, outcomeIs⟩, And.right⟩
      cases impossible
    | some new =>
      have merging := merging_of_sectionOf valid shaped member found
      have head (merged : CanvasSection) :
          CanvasSection.make { old with blocks := syncedBlocks old new } = .ok merged ↔
            old.title ≠ "" ∧ (syncedBlocks old new).length ≤ 300 ∧
              { old with blocks := syncedBlocks old new } = merged :=
        CanvasSection.make_ok_iff merging.oldValid.id merging.oldValid.title
      rw [merging.mergeSection_eq, map_ok_iff]
      constructor
      · rintro ⟨merged, made, rfl⟩
        obtain ⟨titled, few, rfl⟩ := (head merged).mp made
        refine ⟨fun _ other same => ?_, rfl⟩
        obtain rfl := Option.some.inj same
        exact ⟨titled, few⟩
      · rintro ⟨mergeable, rfl⟩
        obtain ⟨titled, few⟩ := mergeable selected new rfl
        exact ⟨_, (head _).mpr ⟨titled, few, rfl⟩, rfl⟩
  · simp only [if_neg selected]
    rw [pure_ok_iff]
    exact ⟨fun outcomeIs => ⟨fun inside => absurd inside selected, outcomeIs⟩, And.right⟩

/-- A synchronization returns when its sections can be merged and go together. -/
theorem applySync_ok_iff {result : CanvasDocument} :
    applySync current generated selectedKinds false = .ok result ↔
      (∀ old ∈ current.sections, Mergeable generated selectedKinds old) ∧
        CanvasDocument.Consistent (syncedSections current generated selectedKinds) ∧
          result = { sections := syncedSections current generated selectedKinds
                     style := current.style } := by
  have mapped (merged : List (Option CanvasSection)) :
      current.sections.mapM (syncSection generated selectedKinds) = .ok merged ↔
        (∀ old ∈ current.sections, Mergeable generated selectedKinds old) ∧
          current.sections.map (syncedSection generated selectedKinds) = merged := by
    rw [mapM_ok_iff_forall₂]
    constructor
    · intro each
      have both := List.forall₂_iff_get.mp each
      constructor
      · intro old member
        obtain ⟨index, bound, rfl⟩ := List.getElem_of_mem member
        have step := both.2 index bound (both.1 ▸ bound)
        exact ((syncSection_ok_iff valid shaped (List.getElem_mem bound)).mp step).1
      · refine List.ext_getElem (by rw [List.length_map, both.1]) fun index bound other => ?_
        rw [List.length_map] at bound
        have step := both.2 index bound other
        rw [List.getElem_map]
        exact ((syncSection_ok_iff valid shaped (List.getElem_mem bound)).mp step).2
    · rintro ⟨mergeable, rfl⟩
      refine List.forall₂_map_right_iff.mpr (List.forall₂_same.mpr fun old member => ?_)
      exact (syncSection_ok_iff valid shaped member).mpr ⟨mergeable old member, rfl⟩
  have sections : (current.sections.map (syncedSection generated selectedKinds)).reduceOption ++
      newSections current generated selectedKinds =
        syncedSections current generated selectedKinds := by
    rw [List.reduceOption, List.filterMap_map]
    rfl
  simp only [applySync, Bool.false_eq_true, if_false, bind_ok_iff, mapped]
  constructor
  · rintro ⟨_, ⟨mergeable, rfl⟩, made⟩
    rw [sections] at made
    obtain ⟨consistent, same⟩ := make_ok_iff.mp made
    exact ⟨mergeable, consistent, same⟩
  · rintro ⟨mergeable, consistent, same⟩
    refine ⟨_, ⟨mergeable, rfl⟩, ?_⟩
    rw [sections]
    exact make_ok_iff.mpr ⟨consistent, same⟩

end

/-! ### What is kept and what is new -/

/-- The blocks of a section that its merge keeps. -/
def retainedBlocks (old : CanvasSection) : Option CanvasSection → List CanvasBlock
  | none => old.blocks.filter fun block => block.Ungrounded
  | some new =>
    match new.kind with
    | .career _ => old.blocks.filter fun block =>
        block.factIds = [] ∨ ∃ id ∈ block.factIds, new.Refers id
    | _ => old.blocks

/-- The generated blocks that the merge of a section takes over. -/
def addedBlocks (old : CanvasSection) : Option CanvasSection → List CanvasBlock
  | none => []
  | some new =>
    match new.kind with
    | .career _ => new.blocks.filter fun block => ∀ id ∈ block.factIds, ¬old.Refers id
    | _ => if old.blocks = [] then new.blocks else []

/-- The blocks of the edited canvas that stay. -/
def keptBlocks (current generated : CanvasDocument) (selectedKinds : List SectionKind) :
    List CanvasBlock :=
  current.sections.flatMap fun old =>
    if old.kind ∈ selectedKinds then retainedBlocks old (sectionOf generated old.kind)
    else old.blocks

/-- The generated blocks that are taken over. -/
def takenBlocks (current generated : CanvasDocument) (selectedKinds : List SectionKind) :
    List CanvasBlock :=
  (current.sections.flatMap fun old =>
    if old.kind ∈ selectedKinds then addedBlocks old (sectionOf generated old.kind) else []) ++
    (newSections current generated selectedKinds).flatMap CanvasSection.blocks

/-- The sections of the edited canvas that stay. -/
def keptSections (current generated : CanvasDocument) (selectedKinds : List SectionKind) :
    List CanvasSection :=
  current.sections.filter fun old =>
    old.kind ∈ selectedKinds → (sectionOf generated old.kind).isSome ∨
      ∃ block ∈ old.blocks, block.Ungrounded

/-- The two canvases go together: something is left, no section to merge has a blank title, and
what is taken over has other identifiers than what stays and room beside it. -/
structure SyncFits (current generated : CanvasDocument) (selectedKinds : List SectionKind) :
    Prop where
  some : keptSections current generated selectedKinds ≠ [] ∨
    newSections current generated selectedKinds ≠ []
  titled : ∀ old ∈ current.sections, old.kind ∈ selectedKinds →
    (sectionOf generated old.kind).isSome → old.title ≠ ""
  sectionIds : ∀ old ∈ keptSections current generated selectedKinds,
    ∀ new ∈ newSections current generated selectedKinds, old.id ≠ new.id
  blockIds : ∀ old ∈ keptBlocks current generated selectedKinds,
    ∀ new ∈ takenBlocks current generated selectedKinds, old.id ≠ new.id
  fewBlocks : (keptBlocks current generated selectedKinds).length +
    (takenBlocks current generated selectedKinds).length ≤ 300

/-- Items that are converted or left out, by a key the conversion keeps. -/
theorem map_filterMap_of_keeps {First Second Key : Type} {convert : First → Option Second}
    {kept : First → Bool} {key : First → Key} {other : Second → Key} {items : List First}
    (each : ∀ item ∈ items,
      (convert item).map other = if kept item then some (key item) else none) :
    (items.filterMap convert).map other = (items.filter kept).map key := by
  induction items with
  | nil => rfl
  | cons first rest inductionHypothesis =>
    obtain ⟨here, later⟩ := List.forall_mem_cons.mp each
    have tail := inductionHypothesis later
    by_cases keep : kept first = true
    · rw [if_pos keep] at here
      obtain ⟨converted, found, same⟩ := Option.map_eq_some_iff.mp here
      rw [List.filterMap_cons_some found, List.filter_cons_of_pos keep, List.map_cons,
        List.map_cons, same, tail]
    · rw [if_neg keep] at here
      rw [List.filterMap_cons_none (Option.map_eq_none_iff.mp here),
        List.filter_cons_of_neg keep, tail]

/-- The blocks of a merged section are those it keeps and those it takes over, by identifier. -/
theorem Merging.ids_syncedBlocks (merging : Merging old new) :
    (syncedBlocks old new).map CanvasBlock.id =
      (retainedBlocks old (some new)).map CanvasBlock.id ++
        (addedBlocks old (some new)).map CanvasBlock.id := by
  obtain ⟨kind, career⟩ | ⟨single, first, one⟩ := merging.career_or_single
  · rw [syncedBlocks_career career, List.map_append]
    unfold retainedBlocks addedBlocks
    simp only [career]
    congr 1
    refine map_filterMap_of_keeps fun block member => ?_
    unfold careerBlock
    by_cases empty : block.factIds = []
    · rw [if_pos empty, if_pos (decide_eq_true (.inl empty))]
      rfl
    · rw [if_neg empty]
      cases found : new.matching block with
      | some matching =>
        obtain ⟨-, before, fact, after, split, facts, last, -⟩ :=
          merging.matching_some career found
        obtain ⟨inNew, -, inside⟩ := CanvasSection.lastBlock_some last
        have refers : ∃ id ∈ block.factIds, new.Refers id :=
          ⟨fact, split ▸ List.mem_append_right _ List.mem_cons_self, matching, inNew, inside⟩
        rw [if_pos (decide_eq_true (.inr refers))]
        rfl
      | none =>
        have unmatched : ¬(block.factIds = [] ∨ ∃ id ∈ block.factIds, new.Refers id) := by
          rintro (none | ⟨id, inside, refers⟩)
          · exact empty none
          · obtain ⟨matching, same⟩ := merging.exists_matching career inside refers
            rw [found] at same
            cases same
        rw [if_neg (by rwa [decide_eq_true_eq])]
        rfl
  · have parts : retainedBlocks old (some new) = old.blocks ∧
        addedBlocks old (some new) = if old.blocks = [] then new.blocks else [] := by
      unfold retainedBlocks addedBlocks
      cases kindOf : new.kind with
      | identity => simp [kindOf]
      | summary => simp [kindOf]
      | career kind => exact absurd kindOf (single kind)
    rw [syncedBlocks_single single one, parts.1, parts.2]
    by_cases empty : old.blocks = []
    · rw [if_pos empty, if_pos empty, empty]
      rfl
    · rw [if_neg empty, if_neg empty, List.map_map, List.map_nil, List.append_nil]
      rfl

/-! ### The sections and blocks of the outcome -/

theorem flatMap_filterMap_of_keeps {First Second Item : Type} {convert : First → Option Second}
    {parts : Second → List Item} (items : List First) :
    (items.filterMap convert).flatMap parts =
      items.flatMap fun item => (convert item).toList.flatMap parts := by
  induction items with
  | nil => rfl
  | cons first rest inductionHypothesis =>
    rw [List.flatMap_cons, ← inductionHypothesis]
    cases found : convert first with
    | none => rw [List.filterMap_cons_none found, Option.toList_none, List.flatMap_nil,
        List.nil_append]
    | some converted => rw [List.filterMap_cons_some found, List.flatMap_cons,
        Option.toList_some, List.flatMap_singleton]

section

variable {current generated : CanvasDocument} (valid : current.Valid)
  (shaped : generated.Generated) (selectedKinds : List SectionKind)

/-- A section that is left keeps its identifier and its kind. -/
theorem map_filterMap_syncedSection {Key : Type} (key : CanvasSection → Key)
    (keeps : ∀ (part : CanvasSection) (blocks : List CanvasBlock),
      key { part with blocks } = key part) :
    (current.sections.filterMap (syncedSection generated selectedKinds)).map key =
      (keptSections current generated selectedKinds).map key := by
  refine map_filterMap_of_keeps fun old _ => ?_
  unfold syncedSection
  by_cases selected : old.kind ∈ selectedKinds
  · simp only [if_pos selected]
    cases found : sectionOf generated old.kind with
    | none =>
      by_cases none : (old.blocks.filter fun block => block.Ungrounded) = []
      · have lost : ¬∃ block ∈ old.blocks, block.Ungrounded := by
          rintro ⟨block, member, ungrounded⟩
          exact List.filter_eq_nil_iff.mp none block member (decide_eq_true ungrounded)
        simp [none, selected, lost]
      · obtain ⟨block, inside⟩ := List.exists_mem_of_ne_nil _ none
        obtain ⟨member, ungrounded⟩ := List.mem_filter.mp inside
        have left : ∃ block ∈ old.blocks, block.Ungrounded :=
          ⟨block, member, of_decide_eq_true ungrounded⟩
        rw [if_neg none, if_pos (decide_eq_true fun _ => .inr left)]
        exact congrArg some (keeps old _)
    | some new =>
      rw [if_pos (decide_eq_true fun _ => .inl rfl)]
      exact congrArg some (keeps old _)
  · rw [if_neg selected, if_pos (decide_eq_true fun inside => absurd inside selected)]
    rfl

include valid shaped

/-- The identifiers of the blocks of the outcome are those of the blocks that stay and of those
that are taken over. -/
theorem ids_syncedSections :
    (((syncedSections current generated selectedKinds).flatMap CanvasSection.blocks).map
      CanvasBlock.id).Perm
        ((keptBlocks current generated selectedKinds).map CanvasBlock.id ++
          (takenBlocks current generated selectedKinds).map CanvasBlock.id) := by
  have each : ∀ old ∈ current.sections,
      (((syncedSection generated selectedKinds old).toList.flatMap CanvasSection.blocks).map
        CanvasBlock.id) =
        (if old.kind ∈ selectedKinds then retainedBlocks old (sectionOf generated old.kind)
          else old.blocks).map CanvasBlock.id ++
        (if old.kind ∈ selectedKinds then addedBlocks old (sectionOf generated old.kind)
          else []).map CanvasBlock.id := by
    intro old member
    unfold syncedSection
    by_cases selected : old.kind ∈ selectedKinds
    · simp only [if_pos selected]
      cases found : sectionOf generated old.kind with
      | none =>
        simp only [retainedBlocks, addedBlocks, List.map_nil, List.append_nil]
        split
        · next none =>
          rw [none]
          rfl
        · rw [Option.toList_some, List.flatMap_singleton]
      | some new =>
        rw [Option.toList_some, List.flatMap_singleton]
        exact (merging_of_sectionOf valid shaped member found).ids_syncedBlocks
    · simp only [if_neg selected]
      rw [Option.toList_some, List.flatMap_singleton, List.map_nil, List.append_nil]
  unfold syncedSections keptBlocks takenBlocks
  rw [List.flatMap_append, flatMap_filterMap_of_keeps, List.map_append, List.map_append,
    List.map_flatMap, List.map_flatMap, List.map_flatMap, List.map_flatMap, ← List.append_assoc]
  refine List.Perm.append_right _ ?_
  have same := List.flatMap_congr each
  rw [same]
  exact (List.flatMap_append_perm _ _ _).symm

omit valid shaped in
theorem mem_addedBlocks {old : CanvasSection} {new : Option CanvasSection} {block : CanvasBlock}
    (member : block ∈ addedBlocks old new) : ∃ part, new = some part ∧ block ∈ part.blocks := by
  cases new with
  | none => cases member
  | some part =>
    refine ⟨part, rfl, ?_⟩
    unfold addedBlocks at member
    simp only at member
    split at member
    · exact List.mem_of_mem_filter member
    · split at member
      · exact member
      · cases member

omit valid shaped in
theorem retainedBlocks_sublist (old : CanvasSection) (new : Option CanvasSection) :
    (retainedBlocks old new).Sublist old.blocks := by
  cases new with
  | none => exact List.filter_sublist
  | some new =>
    unfold retainedBlocks
    simp only
    split
    · exact List.filter_sublist
    · exact List.Sublist.refl _

omit valid shaped in
theorem addedBlocks_sublist (old : CanvasSection) (part : CanvasSection) :
    (addedBlocks old (some part)).Sublist part.blocks := by
  unfold addedBlocks
  simp only
  split
  · exact List.filter_sublist
  · split
    · exact List.Sublist.refl _
    · exact List.nil_sublist _

omit shaped in
/-- What stays has its own identifiers. -/
theorem nodup_keptBlocks :
    ((keptBlocks current generated selectedKinds).map CanvasBlock.id).Nodup := by
  refine List.Nodup.sublist (List.Sublist.map _ ?_) valid.consistent.blockIds
  refine List.Sublist.flatMap_right _ fun old _ => ?_
  split
  · exact retainedBlocks_sublist old _
  · exact List.Sublist.refl _

/-- What is taken over has its own identifiers. -/
theorem nodup_takenBlocks :
    ((takenBlocks current generated selectedKinds).map CanvasBlock.id).Nodup := by
  have source {old : CanvasSection} {id : String}
      (member : id ∈ (if old.kind ∈ selectedKinds then
        addedBlocks old (sectionOf generated old.kind) else []).map CanvasBlock.id) :
      ∃ part ∈ generated.sections, part.kind = old.kind ∧
        ∃ block ∈ part.blocks, block.id = id := by
    obtain ⟨block, inside, rfl⟩ := List.mem_map.mp member
    split at inside
    · obtain ⟨part, found, inPart⟩ := mem_addedBlocks inside
      obtain ⟨inGenerated, same⟩ := sectionOf_some found
      exact ⟨part, inGenerated, same, block, inPart, rfl⟩
    · cases inside
  have consistent := shaped.valid.consistent
  unfold takenBlocks
  rw [List.map_append, List.map_flatMap]
  refine List.nodup_append.mpr ⟨List.nodup_flatMap.mpr ⟨fun old _ => ?_, ?_⟩, ?_, ?_⟩
  · split
    · cases found : sectionOf generated old.kind with
      | none => exact List.nodup_nil
      | some part =>
        have ids := consistent.blockIds
        rw [List.map_flatMap, List.nodup_flatMap] at ids
        exact (ids.1 part (sectionOf_some found).1).sublist ((addedBlocks_sublist old part).map _)
    · exact List.nodup_nil
  · refine (List.pairwise_map.mp valid.consistent.sectionKinds).imp fun different id one other => ?_
    obtain ⟨first, inFirst, firstKind, _, oneMember, rfl⟩ := source one
    obtain ⟨second, inSecond, secondKind, _, otherMember, same⟩ := source other
    obtain rfl := consistent.eq_of_id inFirst inSecond oneMember otherMember same.symm
    exact different (firstKind.symm.trans secondKind)
  · refine consistent.blockIds.sublist (List.Sublist.map _ ?_)
    exact List.filter_sublist.flatMap _
  · rintro id early other late rfl
    obtain ⟨old, inCurrent, inAdded⟩ := List.mem_flatMap.mp early
    obtain ⟨first, inFirst, firstKind, _, oneMember, rfl⟩ := source inAdded
    obtain ⟨block, inNew, same⟩ := List.mem_map.mp late
    obtain ⟨second, isNew, otherMember⟩ := List.mem_flatMap.mp inNew
    obtain ⟨inSecond, chosen⟩ := List.mem_filter.mp isNew
    obtain rfl := consistent.eq_of_id inFirst inSecond oneMember otherMember same.symm
    refine (of_decide_eq_true chosen).2 ?_
    rw [firstKind]
    exact List.mem_map_of_mem inCurrent

end

/-- The blocks of a merged section are valid and of its kind. -/
theorem Merging.syncedBlocks_fit (merging : Merging old new) :
    ∀ block ∈ syncedBlocks old new, block.Valid ∧ block.kind = old.kind.blockKind := by
  have generated : ∀ block ∈ new.blocks, block.Valid ∧ block.kind = old.kind.blockKind :=
    fun block member => ⟨merging.generated.valid.blocks block member,
      merging.sameKind ▸ merging.newAllowed block member⟩
  intro block member
  obtain ⟨kind, career⟩ | ⟨single, first, one⟩ := merging.career_or_single
  · rw [syncedBlocks_career career] at member
    rcases List.mem_append.mp member with carried | added
    · obtain ⟨was, inOld, carried⟩ := List.mem_filterMap.mp carried
      unfold careerBlock at carried
      split at carried
      · obtain rfl := Option.some.inj carried
        exact ⟨merging.oldValid.blocks was inOld, merging.oldAllowed was inOld⟩
      · obtain ⟨matching, found, rfl⟩ := Option.map_eq_some_iff.mp carried
        exact ⟨merging.merged_valid career inOld found,
          (generated matching (merging.matching_some career found).1).2⟩
    · exact generated block (List.mem_of_mem_filter added)
  · rw [syncedBlocks_single single one] at member
    split at member
    · exact generated block member
    · obtain ⟨was, inOld, rfl⟩ := List.mem_map.mp member
      exact ⟨merging.single_valid one inOld,
        (generated first (one ▸ List.mem_singleton_self first)).2⟩

/-! ### When a synchronization returns -/

section

theorem map_syncedSections (current generated : CanvasDocument) (selectedKinds : List SectionKind)
    {Key : Type} (key : CanvasSection → Key)
    (keeps : ∀ (part : CanvasSection) (blocks : List CanvasBlock),
      key { part with blocks } = key part) :
    (syncedSections current generated selectedKinds).map key =
      (keptSections current generated selectedKinds).map key ++
        (newSections current generated selectedKinds).map key := by
  unfold syncedSections
  rw [List.map_append, map_filterMap_syncedSection selectedKinds key keeps]

variable {current generated : CanvasDocument} (valid : current.Valid)
  (shaped : generated.Generated) {selectedKinds : List SectionKind}

include valid shaped

/-- The sections of the outcome are valid, with blocks of their kinds. -/
theorem syncedSections_fit
    (mergeable : ∀ old ∈ current.sections, Mergeable generated selectedKinds old) :
    ∀ part ∈ syncedSections current generated selectedKinds,
      part.Valid ∧ ∀ block ∈ part.blocks, block.kind = part.kind.blockKind := by
  intro part member
  rcases List.mem_append.mp member with kept | new
  · obtain ⟨old, inCurrent, left⟩ := List.mem_filterMap.mp kept
    have oldValid := valid.sections old inCurrent
    have oldAllowed := valid.consistent.allowed old inCurrent
    unfold syncedSection at left
    split at left
    · next selected =>
      split at left
      · next found =>
        simp only at left
        split at left
        · cases left
        · obtain rfl := Option.some.inj left
          refine ⟨{ id := oldValid.id, title := oldValid.title, fewBlocks := ?_, blocks := ?_ },
            fun block inside => oldAllowed block (List.mem_of_mem_filter inside)⟩
          · exact (List.length_filter_le _ _).trans oldValid.fewBlocks
          · exact fun block inside => oldValid.blocks block (List.mem_of_mem_filter inside)
      · next new found =>
        obtain rfl := Option.some.inj left
        have merging := merging_of_sectionOf valid shaped inCurrent found
        refine ⟨{ id := oldValid.id, title := oldValid.title, fewBlocks := ?_, blocks := ?_ },
          fun block inside => (merging.syncedBlocks_fit block inside).2⟩
        · exact (mergeable old inCurrent selected new found).2
        · exact fun block inside => (merging.syncedBlocks_fit block inside).1
    · obtain rfl := Option.some.inj left
      exact ⟨oldValid, oldAllowed⟩
  · have inGenerated := List.mem_of_mem_filter new
    exact ⟨shaped.valid.sections part inGenerated,
      shaped.valid.consistent.allowed part inGenerated⟩

/-- The sections of the outcome go together when what is kept and what is new do. -/
theorem consistent_syncedSections (fits : SyncFits current generated selectedKinds)
    (allowed : ∀ part ∈ syncedSections current generated selectedKinds,
      ∀ block ∈ part.blocks, block.kind = part.kind.blockKind) :
    CanvasDocument.Consistent (syncedSections current generated selectedKinds) where
  some := fun none => by
    have ids := map_syncedSections current generated selectedKinds CanvasSection.id fun _ _ => rfl
    rw [none, List.map_nil, eq_comm, List.append_eq_nil_iff, List.map_eq_nil_iff,
      List.map_eq_nil_iff] at ids
    exact fits.some.elim (fun some => some ids.1) fun some => some ids.2
  sectionIds := by
    rw [map_syncedSections current generated selectedKinds CanvasSection.id fun _ _ => rfl]
    refine List.nodup_append.mpr ⟨?_, ?_, ?_⟩
    · exact valid.consistent.sectionIds.sublist (List.filter_sublist.map _)
    · exact shaped.valid.consistent.sectionIds.sublist (List.filter_sublist.map _)
    · rintro id one other two same
      obtain ⟨old, kept, rfl⟩ := List.mem_map.mp one
      obtain ⟨new, isNew, rfl⟩ := List.mem_map.mp two
      exact fits.sectionIds old kept new isNew same
  sectionKinds := by
    rw [map_syncedSections current generated selectedKinds CanvasSection.kind fun _ _ => rfl]
    refine List.nodup_append.mpr ⟨?_, ?_, ?_⟩
    · exact valid.consistent.sectionKinds.sublist (List.filter_sublist.map _)
    · exact shaped.valid.consistent.sectionKinds.sublist (List.filter_sublist.map _)
    · rintro kind one other two rfl
      obtain ⟨old, kept, rfl⟩ := List.mem_map.mp one
      obtain ⟨new, isNew, same⟩ := List.mem_map.mp two
      refine (of_decide_eq_true (List.mem_filter.mp isNew).2).2 ?_
      rw [same]
      exact List.mem_map_of_mem (List.mem_of_mem_filter kept)
  blockIds := by
    refine (ids_syncedSections valid shaped selectedKinds).nodup_iff.mpr ?_
    refine List.nodup_append.mpr ⟨nodup_keptBlocks valid selectedKinds,
      nodup_takenBlocks valid shaped selectedKinds, ?_⟩
    rintro id one other two same
    obtain ⟨old, kept, rfl⟩ := List.mem_map.mp one
    obtain ⟨new, taken, rfl⟩ := List.mem_map.mp two
    exact fits.blockIds old kept new taken same
  fewBlocks := by
    have lengths := (ids_syncedSections valid shaped selectedKinds).length_eq
    rw [List.length_append, List.length_map, List.length_map, List.length_map] at lengths
    rw [lengths]
    exact fits.fewBlocks
  allowed := allowed

theorem syncFits_of_consistent
    (mergeable : ∀ old ∈ current.sections, Mergeable generated selectedKinds old)
    (consistent : CanvasDocument.Consistent (syncedSections current generated selectedKinds)) :
    SyncFits current generated selectedKinds where
  some := by
    by_contra none
    obtain ⟨noneKept, noneNew⟩ := not_or.mp none
    have ids := map_syncedSections current generated selectedKinds CanvasSection.id fun _ _ => rfl
    rw [not_not.mp noneKept, not_not.mp noneNew, List.map_nil, List.nil_append,
      List.map_eq_nil_iff] at ids
    exact consistent.some ids
  titled := fun old member selected merged => by
    obtain ⟨new, found⟩ := Option.isSome_iff_exists.mp merged
    exact (mergeable old member selected new found).1
  sectionIds := fun old kept new isNew => by
    have ids := consistent.sectionIds
    rw [map_syncedSections current generated selectedKinds CanvasSection.id fun _ _ => rfl] at ids
    exact (List.nodup_append.mp ids).2.2 _ (List.mem_map_of_mem kept) _
      (List.mem_map_of_mem isNew)
  blockIds := fun old kept new taken => by
    have ids := (ids_syncedSections valid shaped selectedKinds).nodup_iff.mp consistent.blockIds
    exact (List.nodup_append.mp ids).2.2 _ (List.mem_map_of_mem kept) _
      (List.mem_map_of_mem taken)
  fewBlocks := by
    have lengths := (ids_syncedSections valid shaped selectedKinds).length_eq
    rw [List.length_append, List.length_map, List.length_map, List.length_map] at lengths
    rw [← lengths]
    exact consistent.fewBlocks

omit valid shaped in
theorem length_blocks_le (member : part ∈ sections) :
    part.blocks.length ≤ (sections.flatMap CanvasSection.blocks).length :=
  (List.sublist_flatten_of_mem (List.mem_map_of_mem member)).length_le

/-- Where the two canvases go together, every section can be merged. -/
theorem mergeable_of_syncFits (fits : SyncFits current generated selectedKinds) :
    ∀ old ∈ current.sections, Mergeable generated selectedKinds old := by
  intro old member selected new found
  refine ⟨fits.titled old member selected (found ▸ rfl), ?_⟩
  have inside : { old with blocks := syncedBlocks old new } ∈
      syncedSections current generated selectedKinds := by
    refine List.mem_append_left _ (List.mem_filterMap.mpr ⟨old, member, ?_⟩)
    unfold syncedSection
    rw [if_pos selected, found]
  have lengths := (ids_syncedSections valid shaped selectedKinds).length_eq
  rw [List.length_append, List.length_map, List.length_map, List.length_map] at lengths
  have total := fits.fewBlocks
  rw [← lengths] at total
  exact (length_blocks_le inside).trans total

end

/-- What a synchronization returns is valid. -/
theorem valid_of_applySync [UuidReader] {current generated result : CanvasDocument}
    (valid : current.Valid) (shaped : generated.Generated) {selectedKinds : List SectionKind}
    (returned : applySync current generated selectedKinds false = .ok result) : result.Valid := by
  obtain ⟨mergeable, consistent, rfl⟩ := (applySync_ok_iff valid shaped).mp returned
  have fit := syncedSections_fit valid shaped mergeable
  exact { version := rfl, style := valid.style, consistent
          sections := fun part member => (fit part member).1 }

/-- A reset takes the generated canvas. A synchronization returns a valid canvas exactly when the
edited and the generated one go together for the selected kinds, and otherwise it raises. -/
theorem applySync_valid_iff [UuidReader] {current generated : CanvasDocument}
    (valid : current.Valid) {sources : CanvasSources}
    (built : buildCanvas sources = .ok generated) (selectedKinds : List SectionKind) :
    applySync current generated selectedKinds true = .ok generated ∧
      ((∃ result, applySync current generated selectedKinds false = .ok result ∧ result.Valid) ↔
        SyncFits current generated selectedKinds) := by
  have shaped := generated_buildCanvas built
  constructor
  · exact CanvasDocument.read_self shaped.valid fun part member =>
      (shaped.sections part member).titled
  · constructor
    · rintro ⟨result, returned, -⟩
      obtain ⟨mergeable, consistent, -⟩ := (applySync_ok_iff valid shaped).mp returned
      exact syncFits_of_consistent valid shaped mergeable consistent
    · intro fits
      have mergeable := mergeable_of_syncFits valid shaped fits
      have fit := syncedSections_fit valid shaped mergeable
      have consistent := consistent_syncedSections valid shaped fits fun part member =>
        (fit part member).2
      have returned := (applySync_ok_iff valid shaped).mpr ⟨mergeable, consistent, rfl⟩
      exact ⟨_, returned, valid_of_applySync valid shaped returned⟩

section

attribute [local instance] UuidReader.hyphenated

/-- A profile with one project. -/
def projectSources : CanvasSources where
  profile := ⟨"Ada", "", "", ""⟩
  facts := [⟨"6ba7b810-9dad-11d1-80b4-00c04fd430c8", some .project, { title := "Engine" }⟩]
  order := [.project]

/-- A canvas of one section, whose fact the profile no longer has. -/
def formerCanvas : CanvasDocument where
  sections := [{
    id := "experience"
    kind := .career .experience
    title := "EXPERIENCE"
    blocks := [{
      id := "fact-6ba7b811-9dad-11d1-80b4-00c04fd430c8"
      kind := .fact
      factIds := ["6ba7b811-9dad-11d1-80b4-00c04fd430c8"]
      content := { title := "Analyst" } }] }]

theorem formerCanvas_valid : formerCanvas.Valid :=
  CanvasDocument.read_valid (show formerCanvas.read = .ok formerCanvas by decide +kernel)

/-- What is generated from the profile. -/
def projectCanvas : CanvasDocument where
  sections := [
    { id := "identity"
      kind := .identity
      title := "IDENTITY"
      blocks := [{ id := "identity-main", kind := .identity, content := { title := "Ada" } }] },
    { id := "project"
      kind := .career .project
      title := "PROJECTS"
      blocks := [{
        id := "fact-6ba7b810-9dad-11d1-80b4-00c04fd430c8"
        kind := .fact
        factIds := ["6ba7b810-9dad-11d1-80b4-00c04fd430c8"]
        content := { title := "Engine" } }] }]

theorem projectCanvas_built : buildCanvas projectSources = .ok projectCanvas := by decide +kernel

/-- With the projects selected beside it, the former section is given up. -/
theorem applySync_valid_project : ∃ result,
    applySync formerCanvas projectCanvas [.career .experience, .career .project] false =
      .ok result ∧ result.Valid :=
  (applySync_valid_iff formerCanvas_valid projectCanvas_built _).2.mpr
    { some := by decide +kernel
      titled := by decide +kernel
      sectionIds := by decide +kernel
      blockIds := by decide +kernel
      fewBlocks := by decide +kernel }

/-- The only section of a canvas is selected, and the profile has none of its facts any more. -/
theorem applySync_raises : formerCanvas.Valid ∧ buildCanvas projectSources = .ok projectCanvas ∧
    applySync formerCanvas projectCanvas [.career .experience] false =
      .error "List should have at least 1 item" :=
  ⟨formerCanvas_valid, projectCanvas_built, by decide +kernel⟩

end

end CareerOS
