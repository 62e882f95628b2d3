/-
This file is what a synchronization does to the content of a canvas. Everything the
owner did stays: the style, the sections that are not selected, the blocks without
facts, and of a matched block its place, its look and the fields written by hand.
Everything else is as it is generated, and no fact is lost or left over.

A second run changes nothing, with one exception: where two generated blocks rest on
the same fact, the first run takes over both and the second gives the earlier one the
content of the later.
-/

import CareerOS.Resumes.SyncValidity

namespace CareerOS

open Distinct CanvasDocument

/-! ### Conversions that change nothing -/

/-- A conversion leaves a list as it is when it leaves every item as it is. -/
theorem filterMap_eq_self_iff {Item : Type} {convert : Item → Option Item} {items : List Item} :
    items.filterMap convert = items ↔ ∀ item ∈ items, convert item = some item := by
  induction items with
  | nil => simp
  | cons first rest inductionHypothesis =>
    rw [List.forall_mem_cons, ← inductionHypothesis]
    cases found : convert first with
    | none =>
      rw [List.filterMap_cons_none found]
      refine ⟨fun same => ?_, fun both => nomatch both.1⟩
      have shorter := List.length_filterMap_le convert rest
      rw [same, List.length_cons] at shorter
      omega
    | some converted =>
      rw [List.filterMap_cons_some found, List.cons.injEq, Option.some.injEq]

/-- Facts that all stay, the first of them put in front. -/
theorem firsts_append_filter {fact : String} {rest allowed : List String}
    (distinct : (fact :: rest).Nodup) (known : ∀ id ∈ fact :: rest, id ∈ allowed) :
    firsts ([fact] ++ (fact :: rest).filter fun id => id ∈ allowed) = fact :: rest := by
  rw [List.filter_eq_self.mpr fun id inside => decide_eq_true (known id inside),
    List.singleton_append, firsts, firsts_of_nodup distinct, List.filter_cons_of_neg (by simp)]
  congr 1
  refine List.filter_eq_self.mpr fun other member => decide_eq_true ?_
  rintro rfl
  exact (List.nodup_cons.mp distinct).1 member

namespace CanvasContent

/-- Taking fields from a content leaves them when they are taken again. -/
theorem overlay_eq_iff (content values : CanvasContent) (fields : List ManualField) :
    content.overlay fields values = values ↔
      ∀ field, field ∉ fields → values.value field = content.value field := by
  constructor
  · intro same field notTaken
    have taken := congrArg (fun content => content.value field) same
    rw [value_overlay, if_neg notTaken] at taken
    exact taken.symm
  · intro others
    refine ext_value fun field => ?_
    rw [value_overlay]
    split
    · rfl
    · next notTaken => exact (others field notTaken).symm

end CanvasContent

/-! ### Merging again -/

/-- A merge leaves a block as it is when the generated block has its facts and its other fields. -/
theorem mergedBlock_eq_self_iff {block matching : CanvasBlock} {allowed : List String} :
    mergedBlock block matching allowed = block ↔ matching.kind = block.kind ∧
      firsts (matching.factIds ++ block.factIds.filter fun id => id ∈ allowed) = block.factIds ∧
        ∀ field, field ∉ block.manualFields →
          block.content.value field = matching.content.value field := by
  rw [← CanvasContent.overlay_eq_iff]
  constructor
  · intro same
    have kind := congrArg CanvasBlock.kind same
    have facts := congrArg CanvasBlock.factIds same
    have content := congrArg CanvasBlock.content same
    exact ⟨kind, facts, content⟩
  · rintro ⟨kind, facts, content⟩
    unfold mergedBlock
    rw [kind, facts, content]

namespace Merging

variable {old new : CanvasSection} (merging : Merging old new) {kind : CareerKind}

include merging

/-- A block that was merged is merged into itself. -/
theorem careerBlock_merged (career : new.kind = .career kind) {block matching : CanvasBlock}
    (member : block ∈ old.blocks) (found : new.matching block = some matching) :
    careerBlock new (mergedBlock block matching (Dict.keys (byFact (some new)))) =
      some (mergedBlock block matching (Dict.keys (byFact (some new)))) := by
  obtain ⟨inNew, before, fact, after, split, facts, last, -⟩ := merging.matching_some career found
  have valid := merging.merged_valid career member found
  have still : ∀ id ∈ (mergedBlock block matching (Dict.keys (byFact (some new)))).factIds,
      id ∈ Dict.keys (byFact (some new)) := fun id inside =>
    (CanvasSection.mem_keys_byFact_iff (merging.newFacts career) id).mpr
      ((merging.mem_factIds_merged career found id).mp inside).2
  obtain ⟨rest, head⟩ : ∃ rest,
      (mergedBlock block matching (Dict.keys (byFact (some new)))).factIds = fact :: rest := by
    simp only [mergedBlock, facts, List.singleton_append, firsts]
    exact ⟨_, rfl⟩
  have again : new.matching (mergedBlock block matching (Dict.keys (byFact (some new)))) =
      some matching := by
    unfold CanvasSection.matching
    rw [head, List.findSome?_cons, last]
  unfold careerBlock
  rw [if_neg (head ▸ List.cons_ne_nil _ _), again, Option.map_some, Option.some.injEq]
  refine mergedBlock_eq_self_iff.mpr ⟨rfl, ?_, fun field notTaken => ?_⟩
  · rw [facts, head]
    exact firsts_append_filter (head ▸ valid.distinctFacts) (head ▸ still)
  · exact (CanvasContent.value_overlay _ _ _ field).trans (if_neg notTaken)

/-- A generated block stays when the last generated block of its fact has the same content. -/
theorem careerBlock_generated (career : new.kind = .career kind) {block : CanvasBlock}
    (member : block ∈ new.blocks) : careerBlock new block = some block ↔
      ∀ id ∈ block.factIds, ∀ last, new.lastBlock id = some last →
        ∀ field, field ∉ block.manualFields →
          block.content.value field = last.content.value field := by
  obtain ⟨fact, facts⟩ := merging.factIds_new career member
  obtain ⟨last, found⟩ := CanvasSection.exists_lastBlock member
    (merging.newFacts career block member) (facts ▸ List.mem_singleton_self fact)
  obtain ⟨lastMember, lastKind, inside⟩ := CanvasSection.lastBlock_some found
  obtain ⟨lastFact, lastFacts⟩ := merging.factIds_new career lastMember
  rw [lastFacts, List.mem_singleton] at inside
  subst inside
  have matching : new.matching block = some last := by
    unfold CanvasSection.matching
    rw [facts, List.findSome?_cons, found]
  have known : fact ∈ Dict.keys (byFact (some new)) :=
    (CanvasSection.mem_keys_byFact_iff (merging.newFacts career) fact).mpr
      ⟨block, member, facts ▸ List.mem_singleton_self fact⟩
  have sameFacts : firsts (last.factIds ++ block.factIds.filter
      fun id => id ∈ Dict.keys (byFact (some new))) = block.factIds := by
    rw [facts, lastFacts]
    exact firsts_append_filter (List.nodup_singleton fact) (List.forall_mem_singleton.mpr known)
  have sameKind : last.kind = block.kind :=
    lastKind.trans (merging.newFacts career block member).symm
  unfold careerBlock
  rw [if_neg (facts ▸ List.cons_ne_nil _ _), matching, Option.map_some, Option.some.injEq,
    mergedBlock_eq_self_iff, facts, List.forall_mem_singleton, found]
  constructor
  · rintro ⟨-, -, others⟩ _ same
    obtain rfl := Option.some.inj same
    exact others
  · exact fun others => ⟨sameKind, facts ▸ sameFacts, others last rfl⟩

end Merging

/-- A generated block has the content of the last generated block of its fact. -/
def AgreesWithLast (new : CanvasSection) (block : CanvasBlock) : Prop :=
  ∀ id ∈ block.factIds, ∀ last, new.lastBlock id = some last →
    ∀ field, field ∉ block.manualFields → block.content.value field = last.content.value field

namespace Merging

variable {old new : CanvasSection} (merging : Merging old new) {kind : CareerKind}

include merging

/-- The facts of a merged career section are those of the generated one. -/
theorem refers_synced (career : new.kind = .career kind) (id : String) :
    (∃ block ∈ syncedBlocks old new, id ∈ block.factIds) ↔ new.Refers id := by
  rw [syncedBlocks_career career]
  constructor
  · rintro ⟨block, member, inside⟩
    rcases List.mem_append.mp member with carried | added
    · exact ((merging.mem_carriedFacts career id).mp
        (List.mem_flatMap.mpr ⟨block, carried, inside⟩)).2
    · exact ⟨block, List.mem_of_mem_filter added, inside⟩
  · rintro ⟨block, member, inside⟩
    by_cases refers : old.Refers id
    · obtain ⟨carried, left, here⟩ := List.mem_flatMap.mp
        ((merging.mem_carriedFacts career id).mpr ⟨refers, block, member, inside⟩)
      exact ⟨carried, List.mem_append_left _ left, here⟩
    · obtain ⟨fact, facts⟩ := merging.factIds_new career member
      refine ⟨block, List.mem_append_right _ (List.mem_filter.mpr ⟨member, ?_⟩), inside⟩
      rw [facts, List.mem_singleton] at inside
      subst inside
      rw [facts]
      exact decide_eq_true (List.forall_mem_singleton.mpr refers)

/-- No generated fact is lost by a merge. -/
theorem refers_synced_of {id : String} (refers : new.Refers id) :
    CanvasSection.Refers { old with blocks := syncedBlocks old new } id := by
  obtain ⟨kind, career⟩ | ⟨single, first, one⟩ := merging.career_or_single
  · exact (merging.refers_synced career id).mpr refers
  · obtain ⟨block, member, inside⟩ := refers
    obtain rfl := List.mem_singleton.mp (one ▸ member)
    show ∃ merged ∈ syncedBlocks old new, id ∈ merged.factIds
    rw [syncedBlocks_single single one]
    by_cases empty : old.blocks = []
    · rw [if_pos empty]
      exact ⟨block, member, inside⟩
    · rw [if_neg empty]
      obtain ⟨was, rest, split⟩ := List.exists_cons_of_ne_nil empty
      refine ⟨_, List.mem_map_of_mem (split ▸ List.mem_cons_self), ?_⟩
      rw [merging.factIds_single one was]
      exact inside

/-- A career section with all generated facts is merged into itself when its blocks are. -/
theorem syncedBlocks_eq_self_iff (career : new.kind = .career kind)
    (whole : ∀ id, new.Refers id → old.Refers id) : syncedBlocks old new = old.blocks ↔
      ∀ block ∈ old.blocks, careerBlock new block = some block := by
  have none : (new.blocks.filter fun block => ∀ id ∈ block.factIds, ¬old.Refers id) = [] := by
    refine List.filter_eq_nil_iff.mpr fun block member unused => ?_
    obtain ⟨fact, facts⟩ := merging.factIds_new career member
    have inside : fact ∈ block.factIds := facts ▸ List.mem_singleton_self fact
    exact of_decide_eq_true unused fact inside (whole fact ⟨block, member, inside⟩)
  rw [syncedBlocks_career career, none, List.append_nil, filterMap_eq_self_iff]

/-- A merged section is merged into itself unless it took over a block whose fact has another
content further on. -/
theorem syncedBlocks_again (again : Merging { old with blocks := syncedBlocks old new } new) :
    syncedBlocks { old with blocks := syncedBlocks old new } new = syncedBlocks old new ↔
      ∀ kind, new.kind = .career kind → ∀ block ∈ new.blocks,
        (∀ id ∈ block.factIds, ¬old.Refers id) → AgreesWithLast new block := by
  obtain ⟨kind, career⟩ | ⟨single, first, one⟩ := merging.career_or_single
  · have each := again.syncedBlocks_eq_self_iff career fun id refers =>
      (merging.refers_synced career id).mpr refers
    refine each.trans ⟨fun stays other _ block member unused => ?_, fun agree block member => ?_⟩
    · refine (merging.careerBlock_generated career member).mp (stays block ?_)
      show block ∈ syncedBlocks old new
      rw [syncedBlocks_career career]
      exact List.mem_append_right _ (List.mem_filter.mpr ⟨member, decide_eq_true unused⟩)
    · have inside : block ∈ syncedBlocks old new := member
      rw [syncedBlocks_career career] at inside
      rcases List.mem_append.mp inside with carried | added
      · obtain ⟨was, inOld, carried⟩ := List.mem_filterMap.mp carried
        unfold careerBlock at carried
        split at carried
        · next empty =>
          obtain rfl := Option.some.inj carried
          exact if_pos empty
        · obtain ⟨matching, found, rfl⟩ := Option.map_eq_some_iff.mp carried
          exact merging.careerBlock_merged career inOld found
      · obtain ⟨inNew, unused⟩ := List.mem_filter.mp added
        exact (merging.careerBlock_generated career inNew).mpr
          (agree kind career block inNew (of_decide_eq_true unused))
  · have firstFacts : firsts (first.factIds ++ []) = first.factIds := by
      have valid := merging.generated.valid.blocks first (one ▸ List.mem_singleton_self first)
      rw [List.append_nil, firsts_of_nodup valid.distinctFacts]
    have none (block : CanvasBlock) :
        (block.factIds.filter fun id => id ∈ ([] : List String)) = [] :=
      List.filter_eq_nil_iff.mpr fun id _ inside =>
        absurd (of_decide_eq_true inside) List.not_mem_nil
    refine ⟨fun _ kind career => absurd career (single kind), fun _ => ?_⟩
    have stays : ∀ block ∈ syncedBlocks old new, mergedBlock block first [] = block := by
      intro block member
      rw [mergedBlock_eq_self_iff, none, firstFacts]
      rw [syncedBlocks_single single one] at member
      split at member
      · obtain rfl := List.mem_singleton.mp (one ▸ member)
        exact ⟨rfl, rfl, fun _ _ => rfl⟩
      · obtain ⟨was, -, rfl⟩ := List.mem_map.mp member
        refine ⟨rfl, (merging.factIds_single one was).symm, fun field notTaken => ?_⟩
        exact (CanvasContent.value_overlay _ _ _ field).trans (if_neg notTaken)
    have some : syncedBlocks old new ≠ [] := by
      rw [syncedBlocks_single single one]
      split
      · rw [one]
        exact List.cons_ne_nil _ _
      · next some =>
        exact fun empty => some (List.map_eq_nil_iff.mp empty)
    rw [syncedBlocks_single single one { old with blocks := syncedBlocks old new }, if_neg some]
    exact (List.map_congr_left stays).trans (List.map_id _)

end Merging

/-- A section that is new is merged into itself under the same condition. -/
theorem CanvasSection.Generated.syncedBlocks_self {new : CanvasSection} (generated : new.Generated)
    (allowed : ∀ block ∈ new.blocks, block.kind = new.kind.blockKind) :
    syncedBlocks new new = new.blocks ↔
      ∀ kind, new.kind = .career kind → ∀ block ∈ new.blocks, AgreesWithLast new block := by
  have whole : Merging new new := ⟨generated.valid, allowed, generated, allowed, rfl⟩
  have empty : Merging { new with blocks := [] } new :=
    { oldValid := { id := generated.valid.id, title := generated.valid.title
                    fewBlocks := Nat.zero_le _, blocks := nofun }
      oldAllowed := nofun
      generated, newAllowed := allowed, sameKind := rfl }
  have unused : ∀ id, ¬CanvasSection.Refers { new with blocks := [] } id := by
    rintro id ⟨block, member, -⟩
    cases member
  have filled : syncedBlocks { new with blocks := [] } new = new.blocks := by
    obtain ⟨kind, career⟩ | ⟨single, first, one⟩ := whole.career_or_single
    · rw [syncedBlocks_career career]
      exact List.filter_eq_self.mpr fun block _ => decide_eq_true fun id _ => unused id
    · rw [syncedBlocks_single single one, if_pos rfl]
  have again := empty.syncedBlocks_again (by rw [filled]; exact whole)
  rw [filled] at again
  refine again.trans (forall₂_congr fun kind career => forall₂_congr fun block member => ?_)
  exact ⟨fun agree => agree fun id _ => unused id, fun agree _ => agree⟩

/-! ### The sections of a selected kind -/

section

variable {current generated : CanvasDocument} (valid : current.Valid)
  (shaped : generated.Generated) {selectedKinds : List SectionKind}

include valid shaped

/-- Where a section of a selected kind comes from. -/
theorem selected_cases {part : CanvasSection}
    (member : part ∈ syncedSections current generated selectedKinds)
    (selected : part.kind ∈ selectedKinds) :
    (∃ old ∈ current.sections, sectionOf generated part.kind = none ∧
      part = { old with blocks := old.blocks.filter fun block => block.Ungrounded } ∧
        part.blocks ≠ []) ∨
    (∃ old ∈ current.sections, ∃ new, sectionOf generated part.kind = some new ∧
      part = { old with blocks := syncedBlocks old new } ∧ Merging old new) ∨
    sectionOf generated part.kind = some part ∧ part.kind ∉ current.kinds := by
  rcases List.mem_append.mp member with kept | new
  · obtain ⟨old, inCurrent, left⟩ := List.mem_filterMap.mp kept
    unfold syncedSection at left
    split at left
    · split at left
      · next found =>
        simp only at left
        split at left
        · cases left
        · next some =>
          obtain rfl := Option.some.inj left
          exact .inl ⟨old, inCurrent, found, rfl, some⟩
      · next new found =>
        obtain rfl := Option.some.inj left
        exact .inr (.inl ⟨old, inCurrent, new, found, rfl,
          merging_of_sectionOf valid shaped inCurrent found⟩)
    · next unselected =>
      obtain rfl := Option.some.inj left
      exact absurd selected unselected
  · obtain ⟨inGenerated, chosen⟩ := List.mem_filter.mp new
    exact .inr (.inr ⟨sectionOf_of_mem shaped.valid.consistent inGenerated,
      (of_decide_eq_true chosen).2⟩)

/-- Every generated section of a selected kind is merged or new. -/
theorem exists_synced {new : CanvasSection} (inGenerated : new ∈ generated.sections)
    (selected : new.kind ∈ selectedKinds) :
    (∃ old ∈ current.sections, old.kind = new.kind ∧ Merging old new ∧
      { old with blocks := syncedBlocks old new } ∈
        syncedSections current generated selectedKinds) ∨
    new.kind ∉ current.kinds ∧ new ∈ syncedSections current generated selectedKinds := by
  have found := sectionOf_of_mem shaped.valid.consistent inGenerated
  by_cases there : new.kind ∈ current.kinds
  · obtain ⟨old, inCurrent, same⟩ := List.mem_map.mp there
    rw [← same] at found selected
    refine .inl ⟨old, inCurrent, same, merging_of_sectionOf valid shaped inCurrent found, ?_⟩
    refine List.mem_append_left _ (List.mem_filterMap.mpr ⟨old, inCurrent, ?_⟩)
    unfold syncedSection
    rw [if_pos selected, found]
  · exact .inr ⟨there, List.mem_append_right _
      (List.mem_filter.mpr ⟨inGenerated, decide_eq_true ⟨selected, there⟩⟩)⟩

end

/-! ### Synchronizing again -/

/-- A generated block that is taken over has the content of the last generated block of its
fact. -/
def RepeatsAgree (current generated : CanvasDocument) (selectedKinds : List SectionKind) : Prop :=
  ∀ new ∈ generated.sections, new.kind ∈ selectedKinds → ∀ kind, new.kind = .career kind →
    ∀ block ∈ new.blocks,
      (∀ old ∈ current.sections, old.kind = new.kind → ∀ id ∈ block.factIds, ¬old.Refers id) →
        AgreesWithLast new block

section

variable {current generated : CanvasDocument} (valid : current.Valid)
  (shaped : generated.Generated) {selectedKinds : List SectionKind}

include valid shaped

/-- A section of the outcome is left as it is by a second run. -/
theorem syncedSection_again (agree : RepeatsAgree current generated selectedKinds)
    {result : CanvasDocument} (resultValid : result.Valid)
    (sections : result.sections = syncedSections current generated selectedKinds)
    {part : CanvasSection} (member : part ∈ result.sections) :
    syncedSection generated selectedKinds part = some part := by
  unfold syncedSection
  by_cases selected : part.kind ∈ selectedKinds
  · rw [if_pos selected]
    rcases selected_cases valid shaped (sections ▸ member) selected with
      ⟨old, inCurrent, none, same, some⟩ | ⟨old, inCurrent, new, found, same, merging⟩ |
        ⟨found, absent⟩
    · have kept : (part.blocks.filter fun block => block.Ungrounded) = part.blocks := by
        refine List.filter_eq_self.mpr fun block inside => ?_
        rw [same] at inside
        exact (List.mem_filter.mp inside).2
      simp only [none, kept, if_neg some]
    · have inGenerated := (sectionOf_some found).1
      have again := merging_of_sectionOf resultValid shaped member found
      simp only [found, Option.some.injEq]
      have blocks : syncedBlocks part new = part.blocks := by
        subst same
        refine (merging.syncedBlocks_again again).mpr fun kind career block inNew unused => ?_
        refine agree new inGenerated ?_ kind career block inNew ?_
        · rw [(sectionOf_some found).2]
          exact selected
        · intro other inOthers sameKind
          rw [valid.consistent.eq_of_kind inOthers inCurrent (sameKind.trans merging.sameKind)]
          exact unused
      rw [blocks]
    · have inGenerated := (sectionOf_some found).1
      have blocks : syncedBlocks part part = part.blocks := by
        refine ((shaped.sections part inGenerated).syncedBlocks_self
          (shaped.valid.consistent.allowed part inGenerated)).mpr fun kind career block inPart => ?_
        refine agree part inGenerated selected kind career block inPart ?_
        intro other inOthers sameKind
        exact absurd (sameKind ▸ List.mem_map_of_mem inOthers) absent
      simp only [found, blocks]
  · rw [if_neg selected]

variable [UuidReader] {result : CanvasDocument}

/-- A second run changes nothing exactly when the blocks that were taken over agree. -/
theorem applySync_again_iff
    (returned : applySync current generated selectedKinds false = .ok result) :
    applySync result generated selectedKinds false = .ok result ↔
      RepeatsAgree current generated selectedKinds := by
  have resultValid := valid_of_applySync valid shaped returned
  obtain ⟨mergeable, consistent, same⟩ := (applySync_ok_iff valid shaped).mp returned
  have sections : result.sections = syncedSections current generated selectedKinds := by rw [same]
  have style : result.style = current.style := by rw [same]
  constructor
  · intro again
    obtain ⟨-, -, fixed⟩ := (applySync_ok_iff resultValid shaped).mp again
    have fixed := congrArg CanvasDocument.sections fixed
    have stays {part : CanvasSection} (member : part ∈ result.sections) {new : CanvasSection}
        (selected : part.kind ∈ selectedKinds) (found : sectionOf generated part.kind = some new) :
        syncedBlocks part new = part.blocks := by
      have inside : { part with blocks := syncedBlocks part new } ∈ result.sections := by
        rw [fixed]
        refine List.mem_append_left _ (List.mem_filterMap.mpr ⟨part, member, ?_⟩)
        unfold syncedSection
        rw [if_pos selected, found]
      exact congrArg CanvasSection.blocks (resultValid.consistent.eq_of_kind inside member rfl)
    intro new inGenerated selected kind career block inNew unused
    have found := sectionOf_of_mem shaped.valid.consistent inGenerated
    rcases exists_synced valid shaped inGenerated selected with
      ⟨old, inCurrent, sameKind, merging, inside⟩ | ⟨absent, inside⟩
    · have member : { old with blocks := syncedBlocks old new } ∈ result.sections :=
        sections ▸ inside
      rw [← sameKind] at found selected
      have again := merging_of_sectionOf resultValid shaped member found
      exact (merging.syncedBlocks_again again).mp (stays member selected found) kind career block
        inNew (unused old inCurrent sameKind)
    · have member : new ∈ result.sections := sections ▸ inside
      exact ((shaped.sections new inGenerated).syncedBlocks_self
        (shaped.valid.consistent.allowed new inGenerated)).mp (stays member selected found) kind
          career block inNew
  · intro agree
    have each : ∀ part ∈ result.sections,
        syncedSection generated selectedKinds part = some part := fun part member =>
      syncedSection_again valid shaped agree resultValid sections member
    have noneNew : newSections result generated selectedKinds = [] := by
      refine List.filter_eq_nil_iff.mpr fun new inGenerated chosen => ?_
      obtain ⟨selected, absent⟩ := of_decide_eq_true chosen
      refine absent ?_
      rcases exists_synced valid shaped inGenerated selected with
        ⟨old, -, sameKind, -, inside⟩ | ⟨-, inside⟩
      · exact List.mem_map.mpr
          ⟨{ old with blocks := syncedBlocks old new }, sections ▸ inside, sameKind⟩
      · exact List.mem_map.mpr ⟨_, sections ▸ inside, rfl⟩
    have fixed : syncedSections result generated selectedKinds = result.sections := by
      unfold syncedSections
      rw [noneNew, List.append_nil]
      exact filterMap_eq_self_iff.mpr each
    refine (applySync_ok_iff resultValid shaped).mpr ⟨?_, fixed ▸ resultValid.consistent, ?_⟩
    · intro part member selected new found
      have blocks : syncedBlocks part new = part.blocks := by
        have stays := each part member
        unfold syncedSection at stays
        simp only [if_pos selected, found, Option.some.injEq] at stays
        exact congrArg CanvasSection.blocks stays
      refine ⟨?_, blocks ▸ (resultValid.sections part member).fewBlocks⟩
      rcases selected_cases valid shaped (sections ▸ member) selected with
        ⟨old, inCurrent, none, -, -⟩ | ⟨old, inCurrent, other, foundOld, samePart, merging⟩ |
          ⟨itself, -⟩
      · rw [none] at found
        cases found
      · subst samePart
        exact (mergeable old inCurrent selected other foundOld).1
      · exact (shaped.sections part (sectionOf_some itself).1).titled
    · rw [fixed]
      have version := resultValid.version
      cases result
      simp_all

end

/-! ### The content law -/

/-- A merged block keeps its identity, its look and the fields written by hand; its other fields
are the generated ones. -/
structure CarriedFrom (generated was block : CanvasBlock) : Prop where
  id : block.id = was.id
  visible : block.visible = was.visible
  layout : block.layout = was.layout
  manualFields : block.manualFields = was.manualFields
  content : ∀ field, block.content.value field =
    if field ∈ was.manualFields then was.content.value field else generated.content.value field

/-- A block without facts stays as it was; another is merged with a generated block that shares a
fact with it, or with the one block of the section where it is not a fact block. -/
def CarriedOver (new : CanvasSection) (was block : CanvasBlock) : Prop :=
  was.Ungrounded ∧ block = was ∨ ∃ generated ∈ new.blocks,
    (was.kind = .fact → ∃ id ∈ was.factIds, id ∈ generated.factIds) ∧
      CarriedFrom generated was block

/-- A block without facts or with a fact that is still generated. Other kinds of blocks stay. -/
def BlockSurvives (new : CanvasSection) (block : CanvasBlock) : Prop :=
  block.kind = .fact → block.factIds = [] ∨ ∃ id ∈ block.factIds, new.Refers id

instance (new : CanvasSection) (block : CanvasBlock) : Decidable (BlockSurvives new block) :=
  inferInstanceAs (Decidable (_ → _))

/-- What a synchronization keeps, and what it takes from the generated canvas. -/
structure SyncLaw [UuidReader] (current generated : CanvasDocument)
    (selectedKinds : List SectionKind) (result : CanvasDocument) : Prop where
  style : result.style = current.style
  unselected : result.sections.filter (fun part => part.kind ∉ selectedKinds) =
    current.sections.filter fun part => part.kind ∉ selectedKinds
  ungrounded : ∀ old ∈ current.sections, old.kind ∈ selectedKinds → ∀ block ∈ old.blocks,
    block.Ungrounded → ∃ merged ∈ result.sections, merged.kind = old.kind ∧ block ∈ merged.blocks
  matched : ∀ old ∈ current.sections, old.kind ∈ selectedKinds → ∀ new ∈ generated.sections,
    new.kind = old.kind → ∃ merged ∈ result.sections, merged.kind = old.kind ∧
      ∃ kept taken, merged.blocks = kept ++ taken ∧
        List.Forall₂ (CarriedOver new) (old.blocks.filter fun block => BlockSurvives new block) kept
  noFactLost : ∀ new ∈ generated.sections, new.kind ∈ selectedKinds →
    ∃ merged ∈ result.sections, merged.kind = new.kind ∧
      ∀ id, new.Refers id → merged.Refers id
  noFactLeft : ∀ merged ∈ result.sections, merged.kind ∈ selectedKinds →
    ∀ kind, merged.kind = .career kind → ∀ id, merged.Refers id →
      ∃ new ∈ generated.sections, new.kind = merged.kind ∧ new.Refers id
  again : applySync result generated selectedKinds false = .ok result

theorem forall₂_filter_filterMap {First Second : Type} {related : First → Second → Prop}
    {kept : First → Bool} {convert : First → Option Second} {items : List First}
    (each : ∀ item ∈ items, if kept item then ∃ other, convert item = some other ∧
      related item other else convert item = none) :
    List.Forall₂ related (items.filter kept) (items.filterMap convert) := by
  induction items with
  | nil => exact .nil
  | cons first rest inductionHypothesis =>
    obtain ⟨here, later⟩ := List.forall_mem_cons.mp each
    by_cases keep : kept first = true
    · rw [if_pos keep] at here
      obtain ⟨other, found, same⟩ := here
      rw [List.filter_cons_of_pos keep, List.filterMap_cons_some found]
      exact .cons same (inductionHypothesis later)
    · rw [if_neg keep] at here
      rw [List.filter_cons_of_neg keep, List.filterMap_cons_none here]
      exact inductionHypothesis later

theorem carriedFrom_mergedBlock (was generated : CanvasBlock) (allowed : List String) :
    CarriedFrom generated was (mergedBlock was generated allowed) where
  id := rfl
  visible := rfl
  layout := rfl
  manualFields := rfl
  content := CanvasContent.value_overlay _ _ _

/-- The blocks that survive are carried over in their order, before those that are taken over. -/
theorem Merging.carriedOver {old new : CanvasSection} (merging : Merging old new) :
    ∃ kept taken, syncedBlocks old new = kept ++ taken ∧
      List.Forall₂ (CarriedOver new) (old.blocks.filter fun block => BlockSurvives new block)
        kept := by
  obtain ⟨kind, career⟩ | ⟨single, first, one⟩ := merging.career_or_single
  · refine ⟨_, _, syncedBlocks_career career old, forall₂_filter_filterMap fun was inOld => ?_⟩
    have fact := merging.oldFacts career was inOld
    unfold careerBlock
    by_cases empty : was.factIds = []
    · have survives : BlockSurvives new was := fun _ => .inl empty
      rw [if_pos (decide_eq_true survives), if_pos empty]
      exact ⟨was, rfl, .inl ⟨⟨fact, empty⟩, rfl⟩⟩
    · rw [if_neg empty]
      cases found : new.matching was with
      | some matching =>
        obtain ⟨inNew, before, first, after, split, facts, -, -⟩ :=
          merging.matching_some career found
        have inside : first ∈ was.factIds := split ▸ List.mem_append_right _ List.mem_cons_self
        have inMatching : first ∈ matching.factIds := facts ▸ List.mem_singleton_self first
        have survives : BlockSurvives new was :=
          fun _ => .inr ⟨first, inside, matching, inNew, inMatching⟩
        rw [if_pos (decide_eq_true survives)]
        exact ⟨_, rfl, .inr ⟨matching, inNew, fun _ => ⟨first, inside, inMatching⟩,
          carriedFrom_mergedBlock was matching _⟩⟩
      | none =>
        have gone : ¬BlockSurvives new was := fun survives => by
          rcases survives fact with none | ⟨id, inside, refers⟩
          · exact empty none
          · obtain ⟨matching, same⟩ := merging.exists_matching career inside refers
            rw [found] at same
            cases same
        rw [if_neg (by rwa [decide_eq_true_eq])]
        rfl
  · have other : ∀ was ∈ old.blocks, was.kind ≠ .fact := by
      intro was inOld fact
      rw [merging.oldAllowed was inOld, ← merging.sameKind] at fact
      cases kindOf : new.kind with
      | identity => rw [kindOf] at fact; cases fact
      | summary => rw [kindOf] at fact; cases fact
      | career kind => exact single kind kindOf
    have all : (old.blocks.filter fun block => BlockSurvives new block) = old.blocks :=
      List.filter_eq_self.mpr fun was inOld =>
        decide_eq_true fun fact => absurd fact (other was inOld)
    rw [all, syncedBlocks_single single one]
    by_cases empty : old.blocks = []
    · rw [if_pos empty, empty]
      exact ⟨[], new.blocks, rfl, .nil⟩
    · rw [if_neg empty]
      refine ⟨_, [], (List.append_nil _).symm, List.forall₂_map_right_iff.mpr
        (List.forall₂_same.mpr fun was inOld => .inr ⟨first, one ▸ List.mem_singleton_self first,
          fun fact => absurd fact (other was inOld), carriedFrom_mergedBlock was first []⟩)⟩

/-- A conversion that leaves the chosen items as they are and chooses no others. -/
theorem filter_filterMap_eq {Item : Type} {chosen : Item → Bool} {convert : Item → Option Item}
    (stays : ∀ item, chosen item = true → convert item = some item)
    (leaves : ∀ item other, convert item = some other → chosen other = chosen item)
    (items : List Item) : (items.filterMap convert).filter chosen = items.filter chosen := by
  induction items with
  | nil => rfl
  | cons first rest inductionHypothesis =>
    by_cases keep : chosen first = true
    · rw [List.filterMap_cons_some (stays first keep), List.filter_cons_of_pos keep,
        List.filter_cons_of_pos keep, inductionHypothesis]
    · rw [List.filter_cons_of_neg keep, ← inductionHypothesis]
      cases found : convert first with
      | none => rw [List.filterMap_cons_none found]
      | some other =>
        have gone : ¬chosen other = true := fun again => keep (leaves first other found ▸ again)
        rw [List.filterMap_cons_some found, List.filter_cons_of_neg gone]

theorem kind_of_syncedSection {generated : CanvasDocument} {selectedKinds : List SectionKind}
    {old part : CanvasSection} (left : syncedSection generated selectedKinds old = some part) :
    part.kind = old.kind := by
  unfold syncedSection at left
  split at left
  · split at left
    · simp only at left
      split at left
      · cases left
      · obtain rfl := Option.some.inj left
        rfl
    · obtain rfl := Option.some.inj left
      rfl
  · obtain rfl := Option.some.inj left
    rfl

/-- The sections that are not selected stay as they are. -/
theorem unselected_syncedSections (current generated : CanvasDocument)
    (selectedKinds : List SectionKind) :
    (syncedSections current generated selectedKinds).filter
        (fun part => part.kind ∉ selectedKinds) =
      current.sections.filter fun part => part.kind ∉ selectedKinds := by
  have none : (newSections current generated selectedKinds).filter
      (fun part => part.kind ∉ selectedKinds) = [] := by
    refine List.filter_eq_nil_iff.mpr fun new isNew unselected => ?_
    exact of_decide_eq_true unselected (of_decide_eq_true (List.mem_filter.mp isNew).2).1
  unfold syncedSections
  rw [List.filter_append, none, List.append_nil]
  refine filter_filterMap_eq (fun old unselected => ?_) (fun old part left => ?_) _
  · exact if_neg (of_decide_eq_true unselected)
  · rw [kind_of_syncedSection left]

/-- What a synchronization returns obeys the content law exactly when the generated blocks it takes
over have the content of the last generated block of their facts. Only the second run can fail. -/
theorem applySync_law_iff [UuidReader] {current generated result : CanvasDocument}
    (valid : current.Valid) {sources : CanvasSources}
    (built : buildCanvas sources = .ok generated) {selectedKinds : List SectionKind}
    (returned : applySync current generated selectedKinds false = .ok result) :
    SyncLaw current generated selectedKinds result ↔
      RepeatsAgree current generated selectedKinds := by
  have shaped := generated_buildCanvas built
  have consistent := shaped.valid.consistent
  rw [← applySync_again_iff valid shaped returned]
  refine ⟨fun law => law.again, fun again => ?_⟩
  obtain ⟨mergeable, -, same⟩ := (applySync_ok_iff valid shaped).mp returned
  have sections : result.sections = syncedSections current generated selectedKinds := by rw [same]
  refine { again, style := by rw [same]
           unselected := sections ▸ unselected_syncedSections current generated selectedKinds
           ungrounded := ?_, matched := ?_, noFactLost := ?_, noFactLeft := ?_ }
  · intro old inCurrent selected block inOld ungrounded
    have kept : block ∈ old.blocks.filter fun block => block.Ungrounded :=
      List.mem_filter.mpr ⟨inOld, decide_eq_true ungrounded⟩
    have inside {part : CanvasSection}
        (left : syncedSection generated selectedKinds old = some part) :
        part ∈ result.sections := by
      rw [sections]
      exact List.mem_append_left _ (List.mem_filterMap.mpr ⟨old, inCurrent, left⟩)
    cases found : sectionOf generated old.kind with
    | none =>
      refine ⟨{ old with blocks := old.blocks.filter fun block => block.Ungrounded },
        inside ?_, rfl, kept⟩
      unfold syncedSection
      simp only [if_pos selected, found, if_neg (List.ne_nil_of_mem kept)]
    | some new =>
      have merging := merging_of_sectionOf valid shaped inCurrent found
      refine ⟨{ old with blocks := syncedBlocks old new }, inside ?_, rfl, ?_⟩
      · unfold syncedSection
        simp only [if_pos selected, found]
      · obtain ⟨kept, taken, blocks, carried⟩ := merging.carriedOver
        have survives : block ∈ old.blocks.filter fun block => BlockSurvives new block :=
          List.mem_filter.mpr ⟨inOld, decide_eq_true fun _ => .inl ungrounded.2⟩
        obtain ⟨index, bound, at_index⟩ := List.getElem_of_mem survives
        have both := List.forall₂_iff_get.mp carried
        have here := both.2 index bound (both.1 ▸ bound)
        simp only [List.get_eq_getElem, at_index] at here
        show block ∈ syncedBlocks old new
        rw [blocks]
        rcases here with ⟨-, same⟩ | ⟨generated, -, shares, -⟩
        · exact List.mem_append_left _ (same ▸ List.getElem_mem _)
        · obtain ⟨id, inBlock, -⟩ := shares ungrounded.1
          rw [ungrounded.2] at inBlock
          cases inBlock
  · intro old inCurrent selected new inGenerated sameKind
    have found : sectionOf generated old.kind = some new :=
      sameKind ▸ sectionOf_of_mem consistent inGenerated
    refine ⟨{ old with blocks := syncedBlocks old new }, ?_, rfl,
      (merging_of_sectionOf valid shaped inCurrent found).carriedOver⟩
    rw [sections]
    refine List.mem_append_left _ (List.mem_filterMap.mpr ⟨old, inCurrent, ?_⟩)
    unfold syncedSection
    simp only [if_pos selected, found]
  · intro new inGenerated selected
    rcases exists_synced valid shaped inGenerated selected with
      ⟨old, -, sameKind, merging, inside⟩ | ⟨-, inside⟩
    · exact ⟨{ old with blocks := syncedBlocks old new }, sections ▸ inside, sameKind,
        fun id refers => merging.refers_synced_of refers⟩
    · exact ⟨new, sections ▸ inside, rfl, fun id refers => refers⟩
  · intro merged member selected kind career id refers
    rcases selected_cases valid shaped (sections ▸ member) selected with
      ⟨old, -, -, samePart, -⟩ | ⟨old, -, new, found, samePart, merging⟩ | ⟨found, -⟩
    · obtain ⟨block, inside, fact⟩ := refers
      rw [samePart] at inside
      have ungrounded := of_decide_eq_true (List.mem_filter.mp inside).2
      rw [ungrounded.2] at fact
      cases fact
    · obtain ⟨inGenerated, sameKind⟩ := sectionOf_some found
      subst samePart
      exact ⟨new, inGenerated, sameKind,
        (merging.refers_synced (sameKind.trans career) id).mp refers⟩
    · exact ⟨merged, (sectionOf_some found).1, rfl, refers⟩

/-- Generated blocks with facts of their own agree. -/
theorem repeatsAgree_of_distinct {current generated : CanvasDocument}
    (distinct : ∀ new ∈ generated.sections, (new.blocks.flatMap CanvasBlock.factIds).Nodup)
    (selectedKinds : List SectionKind) : RepeatsAgree current generated selectedKinds := by
  intro new inGenerated _ kind _ block member _ id inside last found field _
  obtain ⟨lastMember, -, inLast⟩ := CanvasSection.lastBlock_some found
  have apart := (List.nodup_flatMap.mp (distinct new inGenerated)).2
  have : Std.Symm (Function.onFun List.Disjoint CanvasBlock.factIds) :=
    ⟨fun _ _ apart _ one other => apart other one⟩
  by_contra different
  have other : block ≠ last := fun same => different (same ▸ rfl)
  exact apart.forall member lastMember other inside inLast

section

attribute [local instance] UuidReader.hyphenated

/-- The former section is given up and the project is new, now and at every later run. -/
theorem applySync_law_project : SyncLaw formerCanvas projectCanvas
    [.career .experience, .career .project]
    { projectCanvas with sections := projectCanvas.sections.tail } :=
  (applySync_law_iff formerCanvas_valid projectCanvas_built (by decide +kernel)).mpr
    (repeatsAgree_of_distinct (by decide +kernel) _)

/-- A profile with two projects whose identifiers are one, in capitals and in small letters. -/
def repeatedSources : CanvasSources where
  profile := ⟨"Ada", "", "", ""⟩
  facts := [
    ⟨"6BA7B810-9DAD-11D1-80B4-00C04FD430C8", some .project, { title := "Engine" }⟩,
    ⟨"6ba7b810-9dad-11d1-80b4-00c04fd430c8", some .project, { title := "Loom" }⟩]
  order := [.project]

/-- The project section that is generated, by the titles of its two blocks. -/
def repeatedSection (first second : String) : CanvasSection where
  id := "project"
  kind := .career .project
  title := "PROJECTS"
  blocks := [
    { id := "fact-6BA7B810-9DAD-11D1-80B4-00C04FD430C8"
      kind := .fact
      factIds := ["6ba7b810-9dad-11d1-80b4-00c04fd430c8"]
      content := { title := first } },
    { id := "fact-6ba7b810-9dad-11d1-80b4-00c04fd430c8"
      kind := .fact
      factIds := ["6ba7b810-9dad-11d1-80b4-00c04fd430c8"]
      content := { title := second } }]

/-- Both projects are taken over; the second run gives the first the title of the second. -/
theorem applySync_again_differs : ∃ generated, buildCanvas repeatedSources = .ok generated ∧
    formerCanvas.Valid ∧
    applySync formerCanvas generated [.career .experience, .career .project] false =
      .ok { sections := [repeatedSection "Engine" "Loom"] } ∧
    applySync { sections := [repeatedSection "Engine" "Loom"] } generated
      [.career .experience, .career .project] false =
        .ok { sections := [repeatedSection "Loom" "Loom"] } :=
  ⟨{ sections := [
      { id := "identity"
        kind := .identity
        title := "IDENTITY"
        blocks := [{ id := "identity-main", kind := .identity, content := { title := "Ada" } }] },
      repeatedSection "Engine" "Loom"] },
    by decide +kernel, formerCanvas_valid, by decide +kernel, by decide +kernel⟩

end

end CareerOS
