/-
This file compares the plan an owner is shown with the merge that is applied. The
facts that come and go are always as shown. The fields written by hand, the
conflicts and the sections that are left alone are as shown only under conditions on
the canvas: the plan reads the last block of every fact and the first block of the
summary, and of the identity it reads nothing, while the merge touches every block.
-/

import CareerOS.Resumes.SyncContent

namespace CareerOS

open Distinct CanvasDocument

/-! ### What is compared -/

/-- A mark is about the fact blocks of its fact, or about the blocks of the summary. -/
def FieldMark.About (mark : FieldMark) (kind : SectionKind) (block : CanvasBlock) : Prop :=
  match kind, mark.fact with
  | .career _, some id => id ∈ block.factIds
  | .summary, none => True
  | _, _ => False

/-- The merge keeps a value of a marked field: a block had it by hand and still has it so. -/
def KeptValue (kind : SectionKind) (old merged : Option CanvasSection) (mark : FieldMark)
    (value : List String) : Prop :=
  ∃ before ∈ old, ∃ after ∈ merged, ∃ was ∈ before.blocks, ∃ block ∈ after.blocks,
    block.id = was.id ∧ mark.About kind was ∧ mark.About kind block ∧
      (mark.field ∈ was.manualFields ∧ was.content.value mark.field = value) ∧
        mark.field ∈ block.manualFields ∧ block.content.value mark.field = value

/-- The generated value of a marked field. -/
def GeneratedValue (new : Option CanvasSection) (mark : FieldMark) (value : List String) : Prop :=
  ∃ part ∈ new, ∃ block,
    (match mark.fact with
      | some id => part.lastBlock id
      | none => part.blocks.head?) = some block ∧ block.content.value mark.field = value

/-- What the plan says about a section kind is what the merge does to it. -/
structure PreviewAgrees (current generated result : CanvasDocument) (kind : SectionKind) :
    Prop where
  unlisted : (∀ entry ∈ (planSync current generated).sections, entry.kind ≠ kind) →
    sectionOf result kind = sectionOf current kind
  added : ∀ entry ∈ (planSync current generated).sections, entry.kind = kind →
    ∀ id, id ∈ entry.addedFactIds ↔
      id ∈ sectionFactIds (sectionOf result kind) ∧ id ∉ sectionFactIds (sectionOf current kind)
  removed : ∀ entry ∈ (planSync current generated).sections, entry.kind = kind →
    ∀ id, id ∈ entry.removedFactIds ↔
      id ∈ sectionFactIds (sectionOf current kind) ∧ id ∉ sectionFactIds (sectionOf result kind)
  preserved : ∀ entry ∈ (planSync current generated).sections, entry.kind = kind →
    ∀ mark, (kind, mark) ∈ (planSync current generated).preservedManualFields ↔
      ∃ value, KeptValue kind (sectionOf current kind) (sectionOf result kind) mark value
  conflicts : ∀ entry ∈ (planSync current generated).sections, entry.kind = kind →
    ∀ mark, mark ∈ entry.conflicts ↔
      ∃ value, KeptValue kind (sectionOf current kind) (sectionOf result kind) mark value ∧
        ∃ other, GeneratedValue (sectionOf generated kind) mark other ∧ value ≠ other

/-! ### When the plan covers the merge -/

/-- Two career sections look different by fact: they refer to different facts, or the last blocks
of a fact differ in content. -/
def CareerDiffers (old new : CanvasSection) : Prop :=
  (∃ id, ¬(old.Refers id ↔ new.Refers id)) ∨ ∃ id last generated,
    old.lastBlock id = some last ∧ new.lastBlock id = some generated ∧
      last.content ≠ generated.content

/-- Two summaries look different: they refer to different facts, or their first blocks differ in
content. -/
def SummaryDiffers (old new : CanvasSection) : Prop :=
  (∃ id, ¬(old.Refers id ↔ new.Refers id)) ∨ ∃ first generated,
    old.blocks.head? = some first ∧ new.blocks.head? = some generated ∧
      first.content ≠ generated.content

/-- What one block has by hand, another has by hand too, and differs from the generated block where
the one does. -/
def StandsFor (shown was generated : CanvasBlock) : Prop :=
  ∀ field ∈ was.manualFields, field ∈ shown.manualFields ∧
    (was.content.value field ≠ generated.content.value field →
      shown.content.value field ≠ generated.content.value field)

/-- A block has the generated content in every field that is not by hand. -/
def AsGenerated (was generated : CanvasBlock) : Prop :=
  ∀ field, field ∉ was.manualFields → was.content.value field = generated.content.value field

/-- Where the sections look different, the last block of every fact stands for the others of the
fact; where they look alike, every block is as its first fact is generated. -/
structure CareerCovered (old new : CanvasSection) : Prop where
  fields : CareerDiffers old new → ∀ was ∈ old.blocks, ∀ id ∈ was.factIds, ∀ last generated,
    old.lastBlock id = some last → new.lastBlock id = some generated →
      StandsFor last was generated
  content : ¬CareerDiffers old new → ∀ was ∈ old.blocks, ∀ id ∈ was.factIds.head?,
    ∀ generated, new.lastBlock id = some generated → AsGenerated was generated

/-- There are blocks, each as the generated one. -/
def BlocksAsGenerated (old new : CanvasSection) : Prop :=
  old.blocks ≠ [] ∧ ∀ was ∈ old.blocks, ∀ generated ∈ new.blocks.head?,
    was.factIds = generated.factIds ∧ AsGenerated was generated

/-- Where the summaries look different, the first block stands for the others; where they look
alike, every block is as it is generated. -/
structure SummaryCovered (old new : CanvasSection) : Prop where
  fields : SummaryDiffers old new → ∀ was ∈ old.blocks, ∀ first ∈ old.blocks.head?,
    ∀ generated ∈ new.blocks.head?, StandsFor first was generated
  content : ¬SummaryDiffers old new → BlocksAsGenerated old new

/-- Nothing is planned for an identity section, so it has to be as it is generated. -/
def SectionCovered (kind : SectionKind) (old new : CanvasSection) : Prop :=
  match kind with
  | .career _ => CareerCovered old new
  | .summary => SummaryCovered old new
  | .identity => BlocksAsGenerated old new

/-- The plan covers what the merge does to a section kind that both canvases have. -/
def PreviewCovers (current generated : CanvasDocument) (kind : SectionKind) : Prop :=
  ∀ old ∈ sectionOf current kind, ∀ new ∈ sectionOf generated kind, SectionCovered kind old new

/-! ### The entries of the plan -/

theorem mem_sectionFactIds (part : CanvasSection) (id : String) :
    id ∈ sectionFactIds (some part) ↔ part.Refers id := by
  unfold sectionFactIds
  rw [mem_firsts, List.mem_flatMap]
  rfl

variable {kind : SectionKind} {old new : Option CanvasSection}

theorem planSection_kind
    {entry : ResumeSyncSection} (planned : planSection kind old new = some entry) :
    entry.kind = kind ∧
      entry.addedFactIds = (sectionFactIds new).filter (fun id => id ∉ sectionFactIds old) ∧
      entry.removedFactIds = (sectionFactIds old).filter (fun id => id ∉ sectionFactIds new) ∧
      entry.conflicts = firsts (planConflicts kind old new) := by
  unfold planSection at planned
  simp only at planned
  split at planned
  · obtain rfl := Option.some.inj planned
    exact ⟨rfl, rfl, rfl, rfl⟩
  · cases planned

theorem planSection_none (kind : SectionKind) : planSection kind none none = none := by
  unfold planSection changedFacts planConflicts sharedFacts summaryBlocks byFact sectionFactIds
  simp

theorem sectionOf_eq_none {document : CanvasDocument}
    (absent : kind ∉ document.kinds) : sectionOf document kind = none := by
  cases found : sectionOf document kind with
  | none => rfl
  | some part =>
    obtain ⟨member, same⟩ := sectionOf_some found
    exact absurd (same ▸ List.mem_map_of_mem member) absent

/-- A section kind is planned on its own. -/
theorem mem_planSync_sections {current generated : CanvasDocument} {entry : ResumeSyncSection} :
    entry ∈ (planSync current generated).sections ∧ entry.kind = kind ↔
      planSection kind (sectionOf current kind) (sectionOf generated kind) = some entry := by
  unfold planSync
  simp only [List.mem_filterMap, mem_firsts, List.mem_append]
  constructor
  · rintro ⟨⟨other, -, planned⟩, rfl⟩
    rw [(planSection_kind planned).1]
    exact planned
  · intro planned
    refine ⟨⟨kind, ?_, planned⟩, (planSection_kind planned).1⟩
    by_contra absent
    obtain ⟨notCurrent, notGenerated⟩ := not_or.mp absent
    rw [sectionOf_eq_none notCurrent, sectionOf_eq_none notGenerated, planSection_none] at planned
    cases planned

variable {mark : FieldMark}

theorem mem_planSync_preserved {current generated : CanvasDocument} :
    (kind, mark) ∈ (planSync current generated).preservedManualFields ↔
      mark ∈ planPreserved kind (sectionOf current kind) (sectionOf generated kind) := by
  unfold planSync
  simp only [mem_firsts, List.mem_flatMap, List.mem_map, List.mem_append, Prod.mk.injEq]
  constructor
  · rintro ⟨other, -, same, inside, rfl, rfl⟩
    exact inside
  · intro inside
    refine ⟨kind, ?_, mark, inside, rfl, rfl⟩
    by_contra absent
    obtain ⟨notCurrent, notGenerated⟩ := not_or.mp absent
    rw [sectionOf_eq_none notCurrent, sectionOf_eq_none notGenerated] at inside
    unfold planPreserved sharedFacts summaryBlocks byFact at inside
    simp at inside

/-! ### What is planned -/

theorem nodup_keys_byFact (part : Option CanvasSection) : (Dict.keys (byFact part)).Nodup := by
  have assigned (items : List (String × CanvasBlock)) (table : Dict String CanvasBlock)
      (distinct : (Dict.keys table).Nodup) : (Dict.keys (Dict.assignAll table items)).Nodup := by
    induction items generalizing table with
    | nil => exact distinct
    | cons item rest inductionHypothesis =>
      exact inductionHypothesis _ (Dict.nodup_keys_assign item.2 distinct)
  cases part with
  | none => exact List.nodup_nil
  | some part => exact assigned _ [] List.nodup_nil

/-- The facts both sections have, under their last blocks. -/
theorem mem_sharedFacts {old new : CanvasSection} {id : String} {first second : CanvasBlock} :
    (id, first, second) ∈ sharedFacts (some old) (some new) ↔
      old.lastBlock id = some first ∧ new.lastBlock id = some second := by
  unfold sharedFacts
  rw [List.mem_filterMap]
  constructor
  · rintro ⟨⟨other, oldBlock⟩, member, found⟩
    obtain ⟨newBlock, known, same⟩ := Option.map_eq_some_iff.mp found
    obtain ⟨rfl, rfl, rfl⟩ := same
    rw [lookup_byFact] at known
    refine ⟨?_, known⟩
    rw [← lookup_byFact]
    exact (Dict.mem_iff_lookup (nodup_keys_byFact _) _ _).mp member
  · rintro ⟨one, other⟩
    rw [← lookup_byFact] at one other
    refine ⟨(id, first), (Dict.mem_iff_lookup (nodup_keys_byFact _) _ _).mpr one, ?_⟩
    simp only [other, Option.map_some]

theorem sharedFacts_eq_nil {old : CanvasSection} (others : ∀ block ∈ old.blocks, block.kind ≠ .fact)
    (new : Option CanvasSection) : sharedFacts (some old) new = [] := by
  unfold sharedFacts
  rw [CanvasSection.byFact_eq_nil others]
  rfl

theorem mem_fieldMarks {fact : Option String} {block : CanvasBlock} :
    mark ∈ fieldMarks fact block ↔ mark.fact = fact ∧ mark.field ∈ block.manualFields := by
  unfold fieldMarks
  rw [List.mem_map]
  constructor
  · rintro ⟨field, inside, rfl⟩
    exact ⟨rfl, inside⟩
  · rintro ⟨same, inside⟩
    exact ⟨mark.field, inside, same ▸ rfl⟩

theorem mem_fieldConflicts {fact : Option String} {old new : CanvasBlock} :
    mark ∈ fieldConflicts fact old new ↔
      (mark.fact = fact ∧ mark.field ∈ old.manualFields) ∧
        old.content.value mark.field ≠ new.content.value mark.field := by
  unfold fieldConflicts
  rw [List.mem_filter, mem_fieldMarks, decide_eq_true_eq]

section

variable {old new : CanvasSection}

theorem mem_planPreserved_career (kind : CareerKind) (mark : FieldMark) :
    mark ∈ planPreserved (.career kind) (some old) (some new) ↔ ∃ id last generated,
      old.lastBlock id = some last ∧ new.lastBlock id = some generated ∧
        mark.fact = some id ∧ mark.field ∈ last.manualFields := by
  have noSummary : summaryBlocks (.career kind) (some old) (some new) = none := if_neg nofun
  unfold planPreserved
  simp only [noSummary, List.append_nil, List.mem_flatMap, mem_fieldMarks]
  constructor
  · rintro ⟨⟨id, last, generated⟩, shared, same, inside⟩
    obtain ⟨one, other⟩ := mem_sharedFacts.mp shared
    exact ⟨id, last, generated, one, other, same, inside⟩
  · rintro ⟨id, last, generated, one, other, same, inside⟩
    exact ⟨(id, last, generated), mem_sharedFacts.mpr ⟨one, other⟩, same, inside⟩

theorem mem_planConflicts_career (kind : CareerKind) (mark : FieldMark) :
    mark ∈ planConflicts (.career kind) (some old) (some new) ↔ ∃ id last generated,
      old.lastBlock id = some last ∧ new.lastBlock id = some generated ∧
        (mark.fact = some id ∧ mark.field ∈ last.manualFields) ∧
          last.content.value mark.field ≠ generated.content.value mark.field := by
  have noSummary : summaryBlocks (.career kind) (some old) (some new) = none := if_neg nofun
  unfold planConflicts
  simp only [noSummary, List.append_nil, List.mem_flatMap, mem_fieldConflicts]
  constructor
  · rintro ⟨⟨id, last, generated⟩, shared, marked⟩
    obtain ⟨one, other⟩ := mem_sharedFacts.mp shared
    exact ⟨id, last, generated, one, other, marked⟩
  · rintro ⟨id, last, generated, one, other, marked⟩
    exact ⟨(id, last, generated), mem_sharedFacts.mpr ⟨one, other⟩, marked⟩

theorem filter_factIds_eq_nil_iff : (sectionFactIds (some new)).filter
    (fun id => id ∉ sectionFactIds (some old)) = [] ↔ ∀ id, new.Refers id → old.Refers id := by
  rw [List.filter_eq_nil_iff]
  simp only [mem_sectionFactIds, decide_eq_true_eq, not_not]

/-- A section both canvases have is planned exactly when facts come or go or the content of some
changes. -/
theorem planSection_listed_iff (kind : SectionKind)
    (conflicts : planConflicts kind (some old) (some new) ≠ [] →
      changedFacts kind (some old) (some new) ≠ []) :
    (∃ entry, planSection kind (some old) (some new) = some entry) ↔
      (∃ id, ¬(old.Refers id ↔ new.Refers id)) ∨ changedFacts kind (some old) (some new) ≠ [] := by
  have facts : ((sectionFactIds (some new)).filter (fun id => id ∉ sectionFactIds (some old)) ≠ [] ∨
      (sectionFactIds (some old)).filter (fun id => id ∉ sectionFactIds (some new)) ≠ []) ↔
        ∃ id, ¬(old.Refers id ↔ new.Refers id) := by
    rw [ne_eq, ne_eq, filter_factIds_eq_nil_iff, filter_factIds_eq_nil_iff, ← not_and_or,
      ← not_forall]
    refine not_congr ⟨fun both id => ⟨both.2 id, both.1 id⟩, fun all => ?_⟩
    exact ⟨fun id => (all id).mpr, fun id => (all id).mp⟩
  unfold planSection
  simp only [Option.isNone_some, ne_eq, not_true, or_false, ← facts]
  split
  · next listed =>
    refine iff_of_true ⟨_, rfl⟩ ?_
    rcases listed with added | removed | changed | conflict
    · exact .inl (.inl added)
    · exact .inl (.inr removed)
    · exact .inr changed
    · exact .inr (conflicts conflict)
  · next unlisted =>
    refine iff_of_false nofun fun differs => unlisted ?_
    rcases differs with (added | removed) | changed
    · exact .inl added
    · exact .inr (.inl removed)
    · exact .inr (.inr (.inl changed))

/-- A career section is planned exactly when the two look different. -/
theorem planSection_career_iff (kind : CareerKind) :
    (∃ entry, planSection (.career kind) (some old) (some new) = some entry) ↔
      CareerDiffers old new := by
  have noSummary : summaryBlocks (.career kind) (some old) (some new) = none := if_neg nofun
  have changed : changedFacts (.career kind) (some old) (some new) ≠ [] ↔ ∃ id last generated,
      old.lastBlock id = some last ∧ new.lastBlock id = some generated ∧
        last.content ≠ generated.content := by
    unfold changedFacts
    simp only [noSummary, List.append_nil, ne_eq, List.map_eq_nil_iff, List.filter_eq_nil_iff,
      decide_eq_true_eq, not_forall, not_not]
    constructor
    · rintro ⟨⟨id, last, generated⟩, shared, different⟩
      obtain ⟨one, other⟩ := mem_sharedFacts.mp shared
      exact ⟨id, last, generated, one, other, different⟩
    · rintro ⟨id, last, generated, one, other, different⟩
      exact ⟨(id, last, generated), mem_sharedFacts.mpr ⟨one, other⟩, different⟩
  have conflicts : planConflicts (.career kind) (some old) (some new) ≠ [] →
      changedFacts (.career kind) (some old) (some new) ≠ [] := by
    intro some
    obtain ⟨mark, inside⟩ := List.exists_mem_of_ne_nil _ some
    obtain ⟨id, last, generated, one, other, -, different⟩ :=
      (mem_planConflicts_career kind mark).mp inside
    refine changed.mpr ⟨id, last, generated, one, other, fun same => different ?_⟩
    rw [same]
  unfold CareerDiffers
  rw [← changed]
  exact planSection_listed_iff (.career kind) conflicts

end

/-! ### The merged section -/

/-- What becomes of the section of a selected kind. -/
def outcomeOf (old new : Option CanvasSection) : Option CanvasSection :=
  match old, new with
  | some old, some new => some { old with blocks := syncedBlocks old new }
  | some old, none =>
    let ungrounded := old.blocks.filter fun block => block.Ungrounded
    if ungrounded = [] then none else some { old with blocks := ungrounded }
  | none, new => new

theorem not_mem_kinds {document : CanvasDocument}
    (none : sectionOf document kind = none) : kind ∉ document.kinds := fun inside => by
  obtain ⟨part, member, rfl⟩ := List.mem_map.mp inside
  obtain ⟨found, there⟩ := exists_sectionOf member
  rw [none] at there
  cases there

variable {current generated result : CanvasDocument}

/-- The section of a selected kind in the result. -/
theorem sectionOf_result (valid : current.Valid)
    {selectedKinds : List SectionKind} (resultValid : result.Valid)
    (sections : result.sections = syncedSections current generated selectedKinds)
    (selected : kind ∈ selectedKinds) :
    sectionOf result kind = outcomeOf (sectionOf current kind) (sectionOf generated kind) := by
  have inside {part : CanvasSection}
      (member : part ∈ syncedSections current generated selectedKinds) :
      sectionOf result part.kind = some part :=
    sectionOf_of_mem resultValid.consistent (sections ▸ member)
  cases inCurrent : sectionOf current kind with
  | some old =>
    obtain ⟨member, rfl⟩ := sectionOf_some inCurrent
    have outcome : syncedSection generated selectedKinds old =
        outcomeOf (some old) (sectionOf generated old.kind) := by
      unfold syncedSection outcomeOf
      rw [if_pos selected]
      cases sectionOf generated old.kind <;> rfl
    rw [← outcome]
    cases left : syncedSection generated selectedKinds old with
    | some part =>
      rw [← kind_of_syncedSection left]
      exact inside (List.mem_append_left _ (List.mem_filterMap.mpr ⟨old, member, left⟩))
    | none =>
      refine sectionOf_eq_none fun there => ?_
      obtain ⟨part, inResult, same⟩ := List.mem_map.mp there
      rw [sections] at inResult
      rcases List.mem_append.mp inResult with kept | isNew
      · obtain ⟨other, otherMember, otherLeft⟩ := List.mem_filterMap.mp kept
        have sameKind := (kind_of_syncedSection otherLeft).symm.trans same
        rw [valid.consistent.eq_of_kind otherMember member sameKind, left] at otherLeft
        cases otherLeft
      · have absent := (of_decide_eq_true (List.mem_filter.mp isNew).2).2
        exact absent (same ▸ List.mem_map_of_mem member)
  | none =>
    have absent := not_mem_kinds inCurrent
    cases inGenerated : sectionOf generated kind with
    | some new =>
      obtain ⟨member, rfl⟩ := sectionOf_some inGenerated
      exact inside (List.mem_append_right _
        (List.mem_filter.mpr ⟨member, decide_eq_true ⟨selected, absent⟩⟩))
    | none =>
      refine sectionOf_eq_none fun there => ?_
      obtain ⟨part, inResult, rfl⟩ := List.mem_map.mp there
      rw [sections] at inResult
      rcases List.mem_append.mp inResult with kept | isNew
      · obtain ⟨other, otherMember, otherLeft⟩ := List.mem_filterMap.mp kept
        rw [kind_of_syncedSection otherLeft] at absent
        exact absent (List.mem_map_of_mem otherMember)
      · exact not_mem_kinds inGenerated (List.mem_map_of_mem (List.mem_filter.mp isNew).1)

namespace Merging

variable {old new : CanvasSection} (merging : Merging old new)

include merging

/-- The facts of a merged section are those of the generated one. -/
theorem refers_synced_iff (id : String) :
    CanvasSection.Refers { old with blocks := syncedBlocks old new } id ↔ new.Refers id := by
  refine ⟨?_, merging.refers_synced_of⟩
  obtain ⟨kind, career⟩ | ⟨single, first, one⟩ := merging.career_or_single
  · exact (merging.refers_synced career id).mp
  · have member : first ∈ new.blocks := one ▸ List.mem_singleton_self first
    rintro ⟨block, inside, fact⟩
    have inSynced : block ∈ syncedBlocks old new := inside
    rw [syncedBlocks_single single one] at inSynced
    split at inSynced
    · exact ⟨block, inSynced, fact⟩
    · obtain ⟨was, -, rfl⟩ := List.mem_map.mp inSynced
      rw [merging.factIds_single one] at fact
      exact ⟨first, member, fact⟩

/-- A single merged section is as it was when its blocks are as the generated one. -/
theorem syncedBlocks_single_eq_iff (single : ∀ kind, new.kind ≠ .career kind) :
    syncedBlocks old new = old.blocks ↔ BlocksAsGenerated old new := by
  obtain ⟨first, one⟩ := merging.exists_single single
  have member : first ∈ new.blocks := one ▸ List.mem_singleton_self first
  have firstFacts : firsts (first.factIds ++ []) = first.factIds := by
    have valid := merging.generated.valid.blocks first member
    rw [List.append_nil, firsts_of_nodup valid.distinctFacts]
  have noneKept (block : CanvasBlock) :
      (block.factIds.filter fun id => id ∈ ([] : List String)) = [] :=
    List.filter_eq_nil_iff.mpr fun id _ inside =>
      absurd (of_decide_eq_true inside) List.not_mem_nil
  have each (was : CanvasBlock) (inOld : was ∈ old.blocks) : mergedBlock was first [] = was ↔
      was.factIds = first.factIds ∧ AsGenerated was first := by
    have sameKind : first.kind = was.kind := by
      rw [merging.newAllowed first member, merging.oldAllowed was inOld, merging.sameKind]
    rw [mergedBlock_eq_self_iff, noneKept, firstFacts]
    exact ⟨fun same => ⟨same.2.1.symm, same.2.2⟩, fun same => ⟨sameKind, same.1.symm, same.2⟩⟩
  unfold BlocksAsGenerated
  rw [syncedBlocks_single single one, one, List.head?_cons]
  by_cases empty : old.blocks = []
  · rw [if_pos empty, empty]
    exact iff_of_false (List.cons_ne_nil _ _) fun both => both.1 rfl
  · rw [if_neg empty]
    have mapped : old.blocks.map (fun block => mergedBlock block first []) = old.blocks ↔
        ∀ was ∈ old.blocks, mergedBlock was first [] = was := by
      conv_lhs => rhs; rw [← List.map_id old.blocks]
      exact List.map_inj_left
    rw [mapped]
    constructor
    · intro same
      refine ⟨empty, fun was inOld generated isFirst => ?_⟩
      obtain rfl := Option.some.inj isFirst
      exact (each was inOld).mp (same was inOld)
    · rintro ⟨-, alike⟩ was inOld
      exact (each was inOld).mpr (alike was inOld first rfl)

/-- A career section that looks as the generated one is as it was when its blocks are as their first
facts are generated. -/
theorem syncedBlocks_career_eq_iff {kind : CareerKind} (career : new.kind = .career kind)
    (alike : ¬CareerDiffers old new) : syncedBlocks old new = old.blocks ↔
      ∀ was ∈ old.blocks, ∀ id ∈ was.factIds.head?, ∀ generated,
        new.lastBlock id = some generated → AsGenerated was generated := by
  have sameFacts (id : String) : old.Refers id ↔ new.Refers id := by
    by_contra different
    exact alike (.inl ⟨id, different⟩)
  rw [merging.syncedBlocks_eq_self_iff career fun id => (sameFacts id).mpr]
  refine forall₂_congr fun was inOld => ?_
  unfold careerBlock
  cases facts : was.factIds with
  | nil =>
    rw [if_pos rfl]
    exact iff_of_true rfl nofun
  | cons fact rest =>
    rw [if_neg (List.cons_ne_nil _ _)]
    have inside : fact ∈ was.factIds := facts ▸ List.mem_cons_self
    obtain ⟨other, otherMember, otherFact⟩ := (sameFacts fact).mp ⟨was, inOld, inside⟩
    obtain ⟨last, found⟩ := CanvasSection.exists_lastBlock otherMember
      (merging.newFacts career other otherMember) otherFact
    have matching : new.matching was = some last := by
      unfold CanvasSection.matching
      rw [facts, List.findSome?_cons, found]
    obtain ⟨lastMember, lastKind, inLast⟩ := CanvasSection.lastBlock_some found
    obtain ⟨only, lastFacts⟩ := merging.factIds_new career lastMember
    rw [lastFacts, List.mem_singleton] at inLast
    subst inLast
    have known : ∀ id ∈ fact :: rest, id ∈ Dict.keys (byFact (some new)) := fun id inFacts =>
      (CanvasSection.mem_keys_byFact_iff (merging.newFacts career) id).mpr
        ((sameFacts id).mp ⟨was, inOld, facts ▸ inFacts⟩)
    have distinct := (merging.oldValid.blocks was inOld).distinctFacts
    have factsKept : firsts (last.factIds ++ was.factIds.filter
        fun id => id ∈ Dict.keys (byFact (some new))) = was.factIds := by
      rw [lastFacts, facts]
      exact firsts_append_filter (facts ▸ distinct) known
    have sameKind : last.kind = was.kind :=
      lastKind.trans (merging.oldFacts career was inOld).symm
    rw [matching, Option.map_some, Option.some.injEq, mergedBlock_eq_self_iff, List.head?_cons]
    constructor
    · rintro ⟨-, -, others⟩ id isFirst generated there
      obtain rfl := Option.some.inj isFirst
      rw [found] at there
      obtain rfl := Option.some.inj there
      exact others
    · intro each
      exact ⟨sameKind, factsKept, each fact rfl last found⟩

/-- A value of a career section is kept when its fact is still generated. -/
theorem keptValue_career {kind : CareerKind} (career : new.kind = .career kind)
    (mark : FieldMark) (value : List String) :
    KeptValue (.career kind) (some old) (some { old with blocks := syncedBlocks old new }) mark
        value ↔
      ∃ was ∈ old.blocks, ∃ id ∈ was.factIds, new.Refers id ∧ mark.fact = some id ∧
        mark.field ∈ was.manualFields ∧ was.content.value mark.field = value := by
  have about (block : CanvasBlock) (id : String) (same : mark.fact = some id) :
      mark.About (.career kind) block ↔ id ∈ block.factIds := by
    unfold FieldMark.About
    rw [same]
  constructor
  · rintro ⟨before, isOld, after, isSynced, was, inOld, block, inSynced, -, aboutWas, aboutBlock,
      ⟨manual, same⟩, -⟩
    obtain rfl := Option.some.inj isOld
    obtain rfl := Option.some.inj isSynced
    cases marked : mark.fact with
    | none =>
      unfold FieldMark.About at aboutWas
      rw [marked] at aboutWas
      cases aboutWas
    | some id =>
      have inside := (about was id marked).mp aboutWas
      have still := (merging.refers_synced career id).mp
        ⟨block, inSynced, (about block id marked).mp aboutBlock⟩
      exact ⟨was, inOld, id, inside, still, rfl, manual, same⟩
  · rintro ⟨was, inOld, id, inside, still, marked, manual, same⟩
    obtain ⟨matching, found⟩ := merging.exists_matching career inside still
    refine ⟨old, rfl, _, rfl, was, inOld,
      mergedBlock was matching (Dict.keys (byFact (some new))), ?_, rfl,
      (about was id marked).mpr inside, (about _ id marked).mpr ?_, ⟨manual, same⟩, manual, ?_⟩
    · show mergedBlock was matching _ ∈ syncedBlocks old new
      rw [syncedBlocks_career career]
      refine List.mem_append_left _ (List.mem_filterMap.mpr ⟨was, inOld, ?_⟩)
      unfold careerBlock
      rw [if_neg (List.ne_nil_of_mem inside), found]
      rfl
    · exact (merging.mem_factIds_merged career found id).mpr ⟨inside, still⟩
    · exact ((CanvasContent.value_overlay _ _ _ _).trans (if_pos manual)).trans same

/-- Every value of a summary is kept. -/
theorem keptValue_summary (summary : new.kind = .summary) (mark : FieldMark)
    (value : List String) :
    KeptValue .summary (some old) (some { old with blocks := syncedBlocks old new }) mark value ↔
      mark.fact = none ∧ ∃ was ∈ old.blocks,
        mark.field ∈ was.manualFields ∧ was.content.value mark.field = value := by
  have single : ∀ kind, new.kind ≠ .career kind := fun kind career => by
    rw [summary] at career
    cases career
  obtain ⟨first, one⟩ := merging.exists_single single
  constructor
  · rintro ⟨before, isOld, after, -, was, inOld, block, -, -, aboutWas, -, kept, -⟩
    obtain rfl := Option.some.inj isOld
    cases marked : mark.fact with
    | none => exact ⟨rfl, was, inOld, kept⟩
    | some id =>
      unfold FieldMark.About at aboutWas
      rw [marked] at aboutWas
      cases aboutWas
  · rintro ⟨marked, was, inOld, manual, same⟩
    have about (block : CanvasBlock) : mark.About .summary block := by
      unfold FieldMark.About
      rw [marked]
      trivial
    refine ⟨old, rfl, _, rfl, was, inOld, mergedBlock was first [], ?_, rfl, about _, about _,
      ⟨manual, same⟩, manual, ?_⟩
    · show mergedBlock was first [] ∈ syncedBlocks old new
      rw [syncedBlocks_single single one, if_neg (List.ne_nil_of_mem inOld)]
      exact List.mem_map_of_mem inOld
    · exact ((CanvasContent.value_overlay _ _ _ _).trans (if_pos manual)).trans same

end Merging

/-! ### The marks of a section -/

/-- The fields the plan shows as kept and as in conflict are those the merge keeps, and those of
them that are generated otherwise. -/
structure MarksAgree (kind : SectionKind) (old new outcome : Option CanvasSection) : Prop where
  preserved : ∀ mark, mark ∈ planPreserved kind old new ↔
    ∃ value, KeptValue kind old outcome mark value
  conflicts : ∀ mark, mark ∈ planConflicts kind old new ↔
    ∃ value, KeptValue kind old outcome mark value ∧
      ∃ other, GeneratedValue new mark other ∧ value ≠ other

theorem generatedValue_fact {new : CanvasSection} {id : String}
    (marked : mark.fact = some id) (value : List String) : GeneratedValue (some new) mark value ↔
      ∃ block, new.lastBlock id = some block ∧ block.content.value mark.field = value := by
  unfold GeneratedValue
  simp only [marked, Option.mem_some_iff, exists_eq_left']

theorem generatedValue_summary {new : CanvasSection}
    (marked : mark.fact = none) (value : List String) : GeneratedValue (some new) mark value ↔
      ∃ block, new.blocks.head? = some block ∧ block.content.value mark.field = value := by
  unfold GeneratedValue
  simp only [marked, Option.mem_some_iff, exists_eq_left']

namespace Merging

variable {old new : CanvasSection} (merging : Merging old new)

include merging

/-- The marks of a career section agree when the last block of every fact stands for the others. -/
theorem marksAgree_career_iff {kind : CareerKind} (career : new.kind = .career kind) :
    MarksAgree (.career kind) (some old) (some new)
        (some { old with blocks := syncedBlocks old new }) ↔
      ∀ was ∈ old.blocks, ∀ id ∈ was.factIds, ∀ last generated, old.lastBlock id = some last →
        new.lastBlock id = some generated → StandsFor last was generated := by
  have newFacts {id : String} {generated : CanvasBlock}
      (found : new.lastBlock id = some generated) : new.Refers id := by
    obtain ⟨member, -, inside⟩ := CanvasSection.lastBlock_some found
    exact ⟨generated, member, inside⟩
  constructor
  · intro agree was inOld id inside last generated there found field manual
    have kept : KeptValue (.career kind) (some old)
        (some { old with blocks := syncedBlocks old new }) ⟨some id, field⟩
          (was.content.value field) :=
      (merging.keptValue_career career _ _).mpr
        ⟨was, inOld, id, inside, newFacts found, rfl, manual, rfl⟩
    have sameBlocks {other : String} {first second : CanvasBlock}
        (one : old.lastBlock other = some first) (two : new.lastBlock other = some second)
        (marked : some id = some other) : first = last ∧ second = generated := by
      obtain rfl := Option.some.inj marked
      exact ⟨Option.some.inj (one.symm.trans there), Option.some.inj (two.symm.trans found)⟩
    constructor
    · obtain ⟨other, first, second, one, two, marked, here⟩ :=
        (mem_planPreserved_career kind _).mp ((agree.preserved ⟨some id, field⟩).mpr ⟨_, kept⟩)
      obtain ⟨rfl, rfl⟩ := sameBlocks one two marked
      exact here
    · intro different
      have generatedValue : GeneratedValue (some new) ⟨some id, field⟩
          (generated.content.value field) := (generatedValue_fact rfl _).mpr ⟨generated, found, rfl⟩
      obtain ⟨other, first, second, one, two, ⟨marked, -⟩, here⟩ :=
        (mem_planConflicts_career kind _).mp ((agree.conflicts ⟨some id, field⟩).mpr
          ⟨_, kept, _, generatedValue, different⟩)
      obtain ⟨rfl, rfl⟩ := sameBlocks one two marked
      exact here
  · intro stands
    refine ⟨fun mark => ?_, fun mark => ?_⟩
    · rw [mem_planPreserved_career]
      simp only [merging.keptValue_career career]
      constructor
      · rintro ⟨id, last, generated, there, found, marked, manual⟩
        obtain ⟨member, -, inside⟩ := CanvasSection.lastBlock_some there
        exact ⟨_, last, member, id, inside, newFacts found, marked, manual, rfl⟩
      · rintro ⟨_, was, inOld, id, inside, ⟨other, otherMember, otherFact⟩, marked, manual, -⟩
        obtain ⟨last, there⟩ := CanvasSection.exists_lastBlock inOld
          (merging.oldFacts career was inOld) inside
        obtain ⟨generated, found⟩ := CanvasSection.exists_lastBlock otherMember
          (merging.newFacts career other otherMember) otherFact
        have stand := stands was inOld id inside last generated there found mark.field manual
        exact ⟨id, last, generated, there, found, marked, stand.1⟩
    · rw [mem_planConflicts_career]
      simp only [merging.keptValue_career career]
      constructor
      · rintro ⟨id, last, generated, there, found, ⟨marked, manual⟩, different⟩
        obtain ⟨member, -, inside⟩ := CanvasSection.lastBlock_some there
        exact ⟨_, ⟨last, member, id, inside, newFacts found, marked, manual, rfl⟩, _,
          (generatedValue_fact marked _).mpr ⟨generated, found, rfl⟩, different⟩
      · rintro ⟨_, ⟨was, inOld, id, inside, -, marked, manual, rfl⟩, _, generatedValue, different⟩
        obtain ⟨generated, found, rfl⟩ := (generatedValue_fact marked _).mp generatedValue
        obtain ⟨last, there⟩ := CanvasSection.exists_lastBlock inOld
          (merging.oldFacts career was inOld) inside
        have stand := stands was inOld id inside last generated there found mark.field manual
        exact ⟨id, last, generated, there, found, ⟨marked, stand.1⟩, stand.2 different⟩

/-- No block of a summary is a fact block. -/
theorem sharedFacts_summary (summary : new.kind = .summary) :
    sharedFacts (some old) (some new) = [] := by
  refine sharedFacts_eq_nil (fun block member => ?_) _
  rw [merging.oldAllowed block member, ← merging.sameKind, summary]
  decide

theorem mem_planPreserved_summary (summary : new.kind = .summary) (mark : FieldMark) :
    mark ∈ planPreserved .summary (some old) (some new) ↔ ∃ first generated,
      old.blocks.head? = some first ∧ new.blocks.head? = some generated ∧
        mark.fact = none ∧ mark.field ∈ first.manualFields := by
  unfold planPreserved summaryBlocks
  rw [merging.sharedFacts_summary summary, List.flatMap_nil, List.nil_append, if_pos rfl,
    Option.map_some, Option.map_some]
  cases old.blocks with
  | nil => simp
  | cons first rest =>
    cases new.blocks with
    | nil => simp
    | cons generated others => simp [mem_fieldMarks]

theorem mem_planConflicts_summary (summary : new.kind = .summary) (mark : FieldMark) :
    mark ∈ planConflicts .summary (some old) (some new) ↔ ∃ first generated,
      old.blocks.head? = some first ∧ new.blocks.head? = some generated ∧
        (mark.fact = none ∧ mark.field ∈ first.manualFields) ∧
          first.content.value mark.field ≠ generated.content.value mark.field := by
  unfold planConflicts summaryBlocks
  rw [merging.sharedFacts_summary summary, List.flatMap_nil, List.nil_append, if_pos rfl,
    Option.map_some, Option.map_some]
  cases old.blocks with
  | nil => simp
  | cons first rest =>
    cases new.blocks with
    | nil => simp
    | cons generated others => simp [mem_fieldConflicts]

/-- The marks of a summary agree when its first block stands for the others. -/
theorem marksAgree_summary_iff (summary : new.kind = .summary) :
    MarksAgree .summary (some old) (some new)
        (some { old with blocks := syncedBlocks old new }) ↔
      ∀ was ∈ old.blocks, ∀ first ∈ old.blocks.head?, ∀ generated ∈ new.blocks.head?,
        StandsFor first was generated := by
  have single : ∀ kind, new.kind ≠ .career kind := fun kind career => by
    rw [summary] at career
    cases career
  obtain ⟨generated, one⟩ := merging.exists_single single
  have head : new.blocks.head? = some generated := one ▸ rfl
  constructor
  · intro agree was inOld first isFirst other isOther field manual
    have kept := (merging.keptValue_summary summary ⟨none, field⟩ (was.content.value field)).mpr
      ⟨rfl, was, inOld, manual, rfl⟩
    constructor
    · obtain ⟨shown, -, isShown, -, -, here⟩ := (merging.mem_planPreserved_summary summary _).mp
        ((agree.preserved ⟨none, field⟩).mpr ⟨_, kept⟩)
      obtain rfl := Option.some.inj (isShown.symm.trans isFirst)
      exact here
    · intro different
      have generatedValue : GeneratedValue (some new) ⟨none, field⟩
          (other.content.value field) := (generatedValue_summary rfl _).mpr ⟨other, isOther, rfl⟩
      obtain ⟨shown, next, isShown, isNext, -, here⟩ :=
        (merging.mem_planConflicts_summary summary _).mp ((agree.conflicts ⟨none, field⟩).mpr
          ⟨_, kept, _, generatedValue, different⟩)
      obtain rfl := Option.some.inj (isShown.symm.trans isFirst)
      obtain rfl := Option.some.inj (isNext.symm.trans isOther)
      exact here
  · intro stands
    refine ⟨fun mark => ?_, fun mark => ?_⟩
    · rw [merging.mem_planPreserved_summary summary]
      simp only [merging.keptValue_summary summary]
      constructor
      · rintro ⟨first, -, isFirst, -, marked, manual⟩
        exact ⟨_, marked, first, List.mem_of_head? isFirst, manual, rfl⟩
      · rintro ⟨_, marked, was, inOld, manual, -⟩
        obtain ⟨first, isFirst⟩ := Option.isSome_iff_exists.mp
          (List.isSome_head?.mpr (List.ne_nil_of_mem inOld))
        have stand := stands was inOld first isFirst generated head mark.field manual
        exact ⟨first, generated, isFirst, head, marked, stand.1⟩
    · rw [merging.mem_planConflicts_summary summary]
      simp only [merging.keptValue_summary summary]
      constructor
      · rintro ⟨first, other, isFirst, isOther, ⟨marked, manual⟩, different⟩
        exact ⟨_, ⟨marked, first, List.mem_of_head? isFirst, manual, rfl⟩, _,
          (generatedValue_summary marked _).mpr ⟨other, isOther, rfl⟩, different⟩
      · rintro ⟨_, ⟨marked, was, inOld, manual, rfl⟩, _, generatedValue, different⟩
        obtain ⟨other, isOther, rfl⟩ := (generatedValue_summary marked _).mp generatedValue
        obtain ⟨first, isFirst⟩ := Option.isSome_iff_exists.mp
          (List.isSome_head?.mpr (List.ne_nil_of_mem inOld))
        have stand := stands was inOld first isFirst other isOther mark.field manual
        exact ⟨first, other, isFirst, isOther, ⟨marked, stand.1⟩, stand.2 different⟩

/-- A summary is planned exactly when the two look different. -/
theorem planSection_summary_iff (summary : new.kind = .summary) :
    (∃ entry, planSection .summary (some old) (some new) = some entry) ↔
      SummaryDiffers old new := by
  have single : ∀ kind, new.kind ≠ .career kind := fun kind career => by
    rw [summary] at career
    cases career
  obtain ⟨only, one⟩ := merging.exists_single single
  have newIds : sectionFactIds (some new) ≠ [] := by
    have member : only ∈ new.blocks := one ▸ List.mem_singleton_self only
    have notIdentity : new.kind ≠ .identity := by
      rw [summary]
      decide
    obtain ⟨id, inside⟩ := List.exists_mem_of_ne_nil _
      (merging.generated.grounded notIdentity only member)
    exact List.ne_nil_of_mem ((mem_sectionFactIds new id).mpr ⟨only, member, inside⟩)
  have changed : changedFacts .summary (some old) (some new) ≠ [] ↔ ∃ first generated,
      old.blocks.head? = some first ∧ new.blocks.head? = some generated ∧
        first.content ≠ generated.content := by
    unfold changedFacts summaryBlocks
    rw [merging.sharedFacts_summary summary, List.filter_nil, List.map_nil, List.nil_append,
      if_pos rfl, Option.map_some, Option.map_some]
    cases old.blocks with
    | nil => simp
    | cons first rest =>
      cases new.blocks with
      | nil => simp
      | cons generated others => simp [newIds]
  have conflicts : planConflicts .summary (some old) (some new) ≠ [] →
      changedFacts .summary (some old) (some new) ≠ [] := by
    intro some
    obtain ⟨mark, inside⟩ := List.exists_mem_of_ne_nil _ some
    obtain ⟨first, generated, isFirst, isNew, -, different⟩ :=
      (merging.mem_planConflicts_summary summary mark).mp inside
    refine changed.mpr ⟨first, generated, isFirst, isNew, fun same => different ?_⟩
    rw [same]
  unfold SummaryDiffers
  rw [← changed]
  exact planSection_listed_iff .summary conflicts

/-- No identity section is planned. -/
theorem planSection_identity (identity : new.kind = .identity) :
    planSection .identity (some old) (some new) = none := by
  have noFacts {part : CanvasSection} (valid : part.Valid)
      (allowed : ∀ block ∈ part.blocks, block.kind = part.kind.blockKind)
      (kind : part.kind = .identity) : sectionFactIds (some part) = [] := by
    refine List.eq_nil_iff_forall_not_mem.mpr fun id inside => ?_
    obtain ⟨block, member, fact⟩ := (mem_sectionFactIds part id).mp inside
    have blockKind := allowed block member
    rw [kind] at blockKind
    rw [(valid.blocks block member).identity blockKind] at fact
    cases fact
  have shared : sharedFacts (some old) (some new) = [] := by
    refine sharedFacts_eq_nil (fun block member => ?_) _
    rw [merging.oldAllowed block member, ← merging.sameKind, identity]
    decide
  have noSummary : summaryBlocks .identity (some old) (some new) = none := if_neg nofun
  have oldIds := noFacts merging.oldValid merging.oldAllowed (merging.sameKind ▸ identity)
  have newIds := noFacts merging.generated.valid merging.newAllowed identity
  unfold planSection changedFacts planConflicts
  simp only [shared, noSummary, oldIds, newIds, List.filter_nil, List.map_nil, List.flatMap_nil,
    List.append_nil, ne_eq, not_true, Option.isNone_some, or_self, if_false]

end Merging

/-! ### The plan and the merge -/

/-- The plan agrees with the merge when an unlisted section stays, and the marks of a listed one
agree. -/
theorem previewAgrees_iff
    (facts : ∀ id, id ∈ sectionFactIds (sectionOf result kind) ↔
      id ∈ sectionFactIds (sectionOf generated kind)) :
    PreviewAgrees current generated result kind ↔
      ((¬∃ entry, planSection kind (sectionOf current kind) (sectionOf generated kind) =
          some entry) → sectionOf result kind = sectionOf current kind) ∧
      ((∃ entry, planSection kind (sectionOf current kind) (sectionOf generated kind) =
          some entry) →
        MarksAgree kind (sectionOf current kind) (sectionOf generated kind)
          (sectionOf result kind)) := by
  have listed {entry : ResumeSyncSection}
      (member : entry ∈ (planSync current generated).sections) (same : entry.kind = kind) :=
    mem_planSync_sections.mp ⟨member, same⟩
  constructor
  · intro agrees
    constructor
    · intro absent
      exact agrees.unlisted fun entry member same => absent ⟨entry, listed member same⟩
    · rintro ⟨entry, planned⟩
      obtain ⟨member, same⟩ := mem_planSync_sections.mpr planned
      refine ⟨fun mark => ?_, fun mark => ?_⟩
      · rw [← mem_planSync_preserved]
        exact agrees.preserved entry member same mark
      · rw [← agrees.conflicts entry member same mark, (planSection_kind planned).2.2.2, mem_firsts]
  · rintro ⟨unlisted, marks⟩
    constructor
    · intro absent
      refine unlisted ?_
      rintro ⟨entry, planned⟩
      obtain ⟨member, same⟩ := mem_planSync_sections.mpr planned
      exact absent entry member same
    · intro entry member same id
      rw [(planSection_kind (listed member same)).2.1, List.mem_filter, decide_eq_true_eq, facts]
    · intro entry member same id
      rw [(planSection_kind (listed member same)).2.2.1, List.mem_filter, decide_eq_true_eq, facts]
    · intro entry member same mark
      rw [mem_planSync_preserved]
      exact (marks ⟨entry, listed member same⟩).preserved mark
    · intro entry member same mark
      rw [(planSection_kind (listed member same)).2.2.2, mem_firsts]
      exact (marks ⟨entry, listed member same⟩).conflicts mark

theorem outcome_eq_iff {old new : CanvasSection} : outcomeOf (some old) (some new) = some old ↔
    syncedBlocks old new = old.blocks := by
  unfold outcomeOf
  rw [Option.some.injEq]
  refine ⟨fun same => congrArg CanvasSection.blocks same, fun same => ?_⟩
  rw [same]

/-- The facts of the section that comes out are those of the generated one. -/
theorem mem_sectionFactIds_outcomeOf
    (merging : ∀ part ∈ old, ∀ other ∈ new, Merging part other) (id : String) :
    id ∈ sectionFactIds (outcomeOf old new) ↔ id ∈ sectionFactIds new := by
  cases old with
  | none => exact Iff.rfl
  | some old =>
    cases new with
    | some new =>
      unfold outcomeOf
      rw [mem_sectionFactIds, mem_sectionFactIds]
      exact (merging old rfl new rfl).refers_synced_iff id
    | none =>
      refine iff_of_false ?_ List.not_mem_nil
      unfold outcomeOf
      simp only
      split
      · exact List.not_mem_nil
      · rw [mem_sectionFactIds]
        rintro ⟨block, member, fact⟩
        rw [(of_decide_eq_true (List.mem_filter.mp member).2).2] at fact
        cases fact

/-- Where one side has no section, nothing is kept by hand. -/
theorem marksAgree_of_none
    (allowed : ∀ part ∈ old, part.kind = kind ∧
      ∀ block ∈ part.blocks, block.kind = part.kind.blockKind)
    (missing : old = none ∨ new = none) : MarksAgree kind old new (outcomeOf old new) := by
  have noneShown : planPreserved kind old new = [] ∧ planConflicts kind old new = [] := by
    unfold planPreserved planConflicts
    rcases missing with rfl | rfl
    · simp [sharedFacts, byFact, summaryBlocks]
    · simp [sharedFacts, byFact, summaryBlocks, Dict.lookup]
  have noneKept (mark : FieldMark) (value : List String) :
      ¬KeptValue kind old (outcomeOf old new) mark value := by
    rintro ⟨before, isOld, after, isAfter, -, -, block, member, -, -, about, -⟩
    obtain rfl : old = some before := isOld
    obtain rfl : new = none := missing.resolve_left (Option.some_ne_none before)
    obtain ⟨rfl, blockKinds⟩ := allowed before rfl
    unfold outcomeOf at isAfter
    simp only at isAfter
    split at isAfter
    · cases isAfter
    · obtain rfl := Option.some.inj isAfter
      obtain ⟨inBefore, kept⟩ := List.mem_filter.mp member
      obtain ⟨fact, noFacts⟩ := of_decide_eq_true kept
      unfold FieldMark.About at about
      split at about
      · rw [noFacts] at about
        cases about
      · next summary _ =>
        rw [blockKinds block inBefore, summary] at fact
        cases fact
      · exact about
  refine ⟨fun mark => ?_, fun mark => ?_⟩
  · rw [noneShown.1]
    refine iff_of_false List.not_mem_nil ?_
    rintro ⟨value, kept⟩
    exact noneKept mark value kept
  · rw [noneShown.2]
    refine iff_of_false List.not_mem_nil ?_
    rintro ⟨value, kept, -⟩
    exact noneKept mark value kept

theorem planSection_one_sided (kind : SectionKind)
    (differ : old.isNone ≠ new.isNone) : ∃ entry, planSection kind old new = some entry := by
  unfold planSection
  exact ⟨_, if_pos (.inr (.inr (.inr (.inr differ))))⟩

/-- An unlisted section stays, and the marks of a listed one agree. -/
def SectionAgrees (kind : SectionKind) (old new : Option CanvasSection) : Prop :=
  ((¬∃ entry, planSection kind old new = some entry) → outcomeOf old new = old) ∧
    ((∃ entry, planSection kind old new = some entry) →
      MarksAgree kind old new (outcomeOf old new))

theorem Merging.sectionAgrees_iff {old new : CanvasSection} (merging : Merging old new)
    (newKind : new.kind = kind) :
    SectionAgrees kind (some old) (some new) ↔ SectionCovered kind old new := by
  unfold SectionAgrees
  rw [outcome_eq_iff]
  cases kind with
  | career kind =>
    have marks := merging.marksAgree_career_iff newKind
    have alike := merging.syncedBlocks_career_eq_iff newKind
    rw [planSection_career_iff]
    constructor
    · rintro ⟨unlisted, listed⟩
      exact { fields := fun differs => marks.mp (listed differs)
              content := fun same => (alike same).mp (unlisted same) }
    · intro covered
      exact ⟨fun same => (alike same).mpr (covered.content same),
        fun differs => marks.mpr (covered.fields differs)⟩
  | summary =>
    have single : ∀ kind, new.kind ≠ .career kind := fun kind career => by
      rw [newKind] at career
      cases career
    have marks := merging.marksAgree_summary_iff newKind
    rw [merging.planSection_summary_iff newKind, merging.syncedBlocks_single_eq_iff single]
    constructor
    · rintro ⟨unlisted, listed⟩
      exact { fields := fun differs => marks.mp (listed differs), content := unlisted }
    · intro covered
      exact ⟨covered.content, fun differs => marks.mpr (covered.fields differs)⟩
  | identity =>
    have single : ∀ kind, new.kind ≠ .career kind := fun kind career => by
      rw [newKind] at career
      cases career
    have unlisted : ¬∃ entry, planSection .identity (some old) (some new) = some entry := by
      rw [merging.planSection_identity newKind]
      exact fun ⟨_, impossible⟩ => nomatch impossible
    rw [merging.syncedBlocks_single_eq_iff single]
    exact ⟨fun both => both.1 unlisted,
      fun same => ⟨fun _ => same, fun listed => absurd listed unlisted⟩⟩

/-- Where one side has no section, the plan says what happens. -/
theorem sectionAgrees_of_none
    (allowed : ∀ part ∈ old, part.kind = kind ∧
      ∀ block ∈ part.blocks, block.kind = part.kind.blockKind)
    (missing : old = none ∨ new = none) : SectionAgrees kind old new := by
  refine ⟨fun unlisted => ?_, fun _ => marksAgree_of_none allowed missing⟩
  cases old with
  | none =>
    cases new with
    | none => rfl
    | some new =>
      have differ : (none : Option CanvasSection).isNone ≠ (some new).isNone := Bool.noConfusion
      exact absurd (planSection_one_sided kind differ) unlisted
  | some old =>
    obtain rfl : new = none := missing.resolve_left nofun
    have differ : (some old).isNone ≠ (none : Option CanvasSection).isNone := Bool.noConfusion
    exact absurd (planSection_one_sided kind differ) unlisted

/-- For a kind, the plan agrees with the merge exactly when it covers it. -/
theorem previewAgrees_iff_covers (valid : current.Valid) (shaped : generated.Generated)
    (outcome : sectionOf result kind =
      outcomeOf (sectionOf current kind) (sectionOf generated kind)) :
    PreviewAgrees current generated result kind ↔ PreviewCovers current generated kind := by
  have merging : ∀ part ∈ sectionOf current kind, ∀ other ∈ sectionOf generated kind,
      Merging part other := by
    intro part isOld other isNew
    obtain ⟨member, same⟩ := sectionOf_some isOld
    exact merging_of_sectionOf valid shaped member (same ▸ isNew)
  have allowed : ∀ part ∈ sectionOf current kind, part.kind = kind ∧
      ∀ block ∈ part.blocks, block.kind = part.kind.blockKind := by
    intro part isOld
    obtain ⟨member, same⟩ := sectionOf_some isOld
    exact ⟨same, valid.consistent.allowed part member⟩
  have newKind : ∀ part ∈ sectionOf generated kind, part.kind = kind :=
    fun part isNew => (sectionOf_some isNew).2
  rw [previewAgrees_iff (outcome ▸ mem_sectionFactIds_outcomeOf merging), outcome]
  show SectionAgrees kind (sectionOf current kind) (sectionOf generated kind) ↔ _
  unfold PreviewCovers
  generalize sectionOf current kind = old at *
  generalize sectionOf generated kind = new at *
  cases old with
  | none => exact iff_of_true (sectionAgrees_of_none allowed (.inl rfl)) nofun
  | some old =>
    cases new with
    | none => exact iff_of_true (sectionAgrees_of_none allowed (.inr rfl)) fun _ _ => nofun
    | some new =>
      rw [(merging old rfl new rfl).sectionAgrees_iff (newKind new rfl)]
      simp only [Option.mem_some_iff, forall_eq']

/-- A synchronization returns what its plan shows exactly when the canvases go together and the plan
covers the merge of every selected kind. -/
theorem planSync_agrees_iff [UuidReader] {current generated : CanvasDocument}
    (valid : current.Valid) {sources : CanvasSources}
    (built : buildCanvas sources = .ok generated) (selectedKinds : List SectionKind) :
    (∃ result, applySync current generated selectedKinds false = .ok result ∧
      ∀ kind ∈ selectedKinds, PreviewAgrees current generated result kind) ↔
    SyncFits current generated selectedKinds ∧
      ∀ kind ∈ selectedKinds, PreviewCovers current generated kind := by
  have shaped := generated_buildCanvas built
  have returns := (applySync_valid_iff valid built selectedKinds).2
  have each {result : CanvasDocument}
      (returned : applySync current generated selectedKinds false = .ok result)
      {kind : SectionKind} (selected : kind ∈ selectedKinds) :
      PreviewAgrees current generated result kind ↔ PreviewCovers current generated kind := by
    have resultValid := valid_of_applySync valid shaped returned
    obtain ⟨-, -, same⟩ := (applySync_ok_iff valid shaped).mp returned
    have sections : result.sections = syncedSections current generated selectedKinds := by
      rw [same]
    exact previewAgrees_iff_covers valid shaped
      (sectionOf_result valid resultValid sections selected)
  constructor
  · rintro ⟨result, returned, agrees⟩
    have resultValid := valid_of_applySync valid shaped returned
    exact ⟨returns.mp ⟨result, returned, resultValid⟩,
      fun kind selected => (each returned selected).mp (agrees kind selected)⟩
  · rintro ⟨fits, covers⟩
    obtain ⟨result, returned, -⟩ := returns.mpr fits
    exact ⟨result, returned,
      fun kind selected => (each returned selected).mpr (covers kind selected)⟩

/-- The plan covers a career section whose blocks share no facts. -/
theorem careerCovered_of_distinct {old new : CanvasSection}
    (facts : ∀ block ∈ old.blocks, block.kind = .fact)
    (distinct : (old.blocks.flatMap CanvasBlock.factIds).Nodup) : CareerCovered old new := by
  have last {was block : CanvasBlock} {id : String} (inOld : was ∈ old.blocks)
      (inside : id ∈ was.factIds) (found : old.lastBlock id = some block) : block = was := by
    obtain ⟨member, -, shared⟩ := CanvasSection.lastBlock_some found
    have : Std.Symm (Function.onFun List.Disjoint CanvasBlock.factIds) :=
      ⟨fun _ _ apart _ one other => apart other one⟩
    by_contra different
    exact (List.nodup_flatMap.mp distinct).2.forall member inOld different shared inside
  constructor
  · rintro - was inOld id inside block generated found - field manual
    rw [last inOld inside found]
    exact ⟨manual, fun different => different⟩
  · intro alike was inOld id isFirst generated there field _
    have inside : id ∈ was.factIds := List.mem_of_head? isFirst
    obtain ⟨block, found⟩ := CanvasSection.exists_lastBlock inOld (facts was inOld) inside
    by_contra different
    refine alike (.inr ⟨id, block, generated, found, there, fun same => different ?_⟩)
    rw [← last inOld inside found, same]

section

attribute [local instance] UuidReader.hyphenated

/-- A canvas with the project under another title, written by hand. -/
def renamedCanvas : CanvasDocument where
  sections := [{
    id := "project"
    kind := .career .project
    title := "PROJECTS"
    blocks := [{
      id := "fact-6ba7b810-9dad-11d1-80b4-00c04fd430c8"
      kind := .fact
      factIds := ["6ba7b810-9dad-11d1-80b4-00c04fd430c8"]
      content := { title := "Loom" }
      manualFields := [.title] }] }]

/-- The title stays and is shown as a conflict. -/
theorem planSync_agrees_renamed : renamedCanvas.Valid ∧ ∃ result,
    applySync renamedCanvas projectCanvas [.career .project] false = .ok result ∧
      ∀ kind ∈ [SectionKind.career .project], PreviewAgrees renamedCanvas projectCanvas result
        kind := by
  have valid : renamedCanvas.Valid :=
    CanvasDocument.read_valid (show renamedCanvas.read = .ok renamedCanvas by decide +kernel)
  refine ⟨valid, (planSync_agrees_iff valid projectCanvas_built _).mpr ⟨?_, ?_⟩⟩
  · exact {
      some := by decide +kernel
      titled := by decide +kernel
      sectionIds := by decide +kernel
      blockIds := by decide +kernel
      fewBlocks := by decide +kernel }
  · rintro kind selected old isOld new -
    obtain rfl := List.mem_singleton.mp selected
    obtain ⟨member, -⟩ := sectionOf_some isOld
    obtain rfl := List.mem_singleton.mp member
    exact careerCovered_of_distinct (by decide) (by decide)

/-- A canvas from before the name was changed. -/
def formerNameCanvas : CanvasDocument where
  sections := [{
    id := "identity"
    kind := .identity
    title := "IDENTITY"
    blocks := [{ id := "identity-main", kind := .identity, content := { title := "Grace" } }] }]

/-- The identity section is not listed, and gets another name. -/
theorem applySync_changes_unlisted : formerNameCanvas.Valid ∧
    buildCanvas projectSources = .ok projectCanvas ∧
    (∀ entry ∈ (planSync formerNameCanvas projectCanvas).sections, entry.kind ≠ .identity) ∧
    ∃ result, applySync formerNameCanvas projectCanvas [.identity] false = .ok result ∧
      sectionOf result .identity = sectionOf projectCanvas .identity ∧
        sectionOf result .identity ≠ sectionOf formerNameCanvas .identity :=
  ⟨CanvasDocument.read_valid (show formerNameCanvas.read = .ok formerNameCanvas by decide +kernel),
    projectCanvas_built, by decide +kernel,
    { projectCanvas with sections := projectCanvas.sections.take 1 }, by decide +kernel,
    by decide +kernel, by decide +kernel⟩

end

end CareerOS
