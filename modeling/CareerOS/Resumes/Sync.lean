/-
This file is the synchronization of a resume canvas with the canvas its career
profile generates: the plan that is shown first, and the merge that is applied. The
plan goes by facts, each under the last block that rests on it; the merge goes by
blocks, each under the first of its facts that is still generated.
-/

import CareerOS.Library.Distinct
import CareerOS.Library.Grouping
import CareerOS.Resumes.CanvasBuild

namespace CareerOS

open Distinct

/-! ### The facts of a section -/

/-- `_fact_ids`. -/
def sectionFactIds : Option CanvasSection → List String
  | none => []
  | some part => firsts (part.blocks.flatMap CanvasBlock.factIds)

/-- `_by_fact`. -/
def byFact : Option CanvasSection → Dict String CanvasBlock
  | none => []
  | some part =>
    let facts := part.blocks.filter fun block => block.factIds ≠ [] ∧ block.kind = .fact
    Dict.assignAll [] (facts.flatMap fun block => block.factIds.map fun id => (id, block))

/-- `{section.kind: section for section in document.sections}`, for a kind. -/
def sectionOf (document : CanvasDocument) (kind : SectionKind) : Option CanvasSection :=
  document.sections.reverse.find? fun part => part.kind = kind

/-! ### The plan -/

/-- `f"{fact_id}:{field}"`, or `f"summary:{field}"` without a fact. -/
structure FieldMark where
  fact : Option String
  field : ManualField
  deriving DecidableEq

/-- `ResumeSyncSection`. -/
structure ResumeSyncSection where
  kind : SectionKind
  addedFactIds : List String
  removedFactIds : List String
  changedFactIds : List String
  conflicts : List FieldMark

/-- `CanvasSyncPlan`. A preserved field is its section kind and its mark. -/
structure CanvasSyncPlan where
  sections : List ResumeSyncSection
  preservedManualFields : List (SectionKind × FieldMark)

/-- The fields of a block under a mark, and those whose generated value differs. -/
def fieldMarks (fact : Option String) (old : CanvasBlock) : List FieldMark :=
  old.manualFields.map fun field => ⟨fact, field⟩

def fieldConflicts (fact : Option String) (old new : CanvasBlock) : List FieldMark :=
  (fieldMarks fact old).filter fun mark =>
    old.content.value mark.field ≠ new.content.value mark.field

/-- The facts both sections have, each with its blocks. A set has no order of its own; the facts
stand in the order of the old section here. -/
def sharedFacts (old new : Option CanvasSection) : List (String × CanvasBlock × CanvasBlock) :=
  (byFact old).filterMap fun (id, oldBlock) =>
    (Dict.lookup id (byFact new)).map fun newBlock => (id, oldBlock, newBlock)

/-- The first blocks of the two summaries. -/
def summaryBlocks (kind : SectionKind) (old new : Option CanvasSection) :
    Option (CanvasBlock × CanvasBlock) :=
  if kind = .summary then
    match (old.map CanvasSection.blocks), (new.map CanvasSection.blocks) with
    | some (oldBlock :: _), some (newBlock :: _) => some (oldBlock, newBlock)
    | _, _ => none
  else none

/-- The changed facts of a section kind. -/
def changedFacts (kind : SectionKind) (old new : Option CanvasSection) : List String :=
  ((sharedFacts old new).filter fun (_, oldBlock, newBlock) =>
    oldBlock.content ≠ newBlock.content).map Prod.fst ++
  match summaryBlocks kind old new with
  | some (oldBlock, newBlock) =>
    if oldBlock.content ≠ newBlock.content then
      if sectionFactIds new = [] then sectionFactIds old else sectionFactIds new
    else []
  | none => []

/-- The conflicts of a section kind. -/
def planConflicts (kind : SectionKind) (old new : Option CanvasSection) : List FieldMark :=
  (sharedFacts old new).flatMap (fun (id, oldBlock, newBlock) =>
    fieldConflicts (some id) oldBlock newBlock) ++
  match summaryBlocks kind old new with
  | some (oldBlock, newBlock) => fieldConflicts none oldBlock newBlock
  | none => []

/-- The preserved fields of a section kind. -/
def planPreserved (kind : SectionKind) (old new : Option CanvasSection) : List FieldMark :=
  (sharedFacts old new).flatMap (fun (id, oldBlock, _) => fieldMarks (some id) oldBlock) ++
  match summaryBlocks kind old new with
  | some (oldBlock, _) => fieldMarks none oldBlock
  | none => []

/-- What the plan says about one section kind. -/
def planSection (kind : SectionKind) (old new : Option CanvasSection) :
    Option ResumeSyncSection :=
  let added := (sectionFactIds new).filter fun id => id ∉ sectionFactIds old
  let removed := (sectionFactIds old).filter fun id => id ∉ sectionFactIds new
  let changed := changedFacts kind old new
  let conflicts := planConflicts kind old new
  if added ≠ [] ∨ removed ≠ [] ∨ changed ≠ [] ∨ conflicts ≠ [] ∨ old.isNone ≠ new.isNone then
    some {
      kind
      addedFactIds := added
      removedFactIds := removed
      changedFactIds := firsts changed
      conflicts := firsts conflicts }
  else none

/-- `plan_sync`. -/
def planSync (current generated : CanvasDocument) : CanvasSyncPlan :=
  let kinds := firsts (current.kinds ++ generated.kinds)
  { sections := kinds.filterMap fun kind =>
      planSection kind (sectionOf current kind) (sectionOf generated kind)
    preservedManualFields := firsts (kinds.flatMap fun kind =>
      (planPreserved kind (sectionOf current kind) (sectionOf generated kind)).map fun mark =>
        (kind, mark)) }

/-! ### The merge -/

/-- A fact block without facts: its owner wrote it. -/
def CanvasBlock.Ungrounded (block : CanvasBlock) : Prop := block.kind = .fact ∧ block.factIds = []

instance (block : CanvasBlock) : Decidable block.Ungrounded := inferInstanceAs (Decidable (_ ∧ _))

/-- The block `_merge_block` reads: the new one under the old identity, with the fields the owner
wrote. -/
def mergedBlock (old new : CanvasBlock) (allowedFactIds : List String) : CanvasBlock where
  id := old.id
  kind := new.kind
  factIds := firsts (new.factIds ++ old.factIds.filter fun id => id ∈ allowedFactIds)
  visible := old.visible
  content := new.content.overlay old.manualFields old.content
  manualFields := old.manualFields
  layout := old.layout

/-- The block of the first fact that is still generated. -/
def matchingBlock (newByFact : Dict String CanvasBlock) (old : CanvasBlock) : Option CanvasBlock :=
  old.factIds.findSome? fun id => Dict.lookup id newByFact

section

variable [UuidReader]

/-- `_merge_block`. -/
def mergeBlock (old new : CanvasBlock) (allowedFactIds : List String) : Except String CanvasBlock :=
  CanvasBlock.read (mergedBlock old new allowedFactIds)

/-- What becomes of a block of the edited section, and the facts it uses. -/
def carryBlock (new : CanvasSection) (old : CanvasBlock) :
    Except String (Option (CanvasBlock × List String)) :=
  let newByFact := byFact (some new)
  let allowedFactIds := Dict.keys newByFact
  if old.Ungrounded then return some (old, [])
  else
    match matchingBlock newByFact old with
    | some matching => do
      let merged ← mergeBlock old matching allowedFactIds
      return some (merged, merged.factIds)
    | none =>
      if old.kind = .identity ∨ old.kind = .summary then
        match new.blocks with
        | first :: _ => do
          let merged ← mergeBlock old first allowedFactIds
          return some (merged, first.factIds)
        | [] => return none
      else return none

/-- The blocks of the generated section whose fact no block uses. -/
def unusedBlocks (new : CanvasSection) (usedFactIds : List String) : List CanvasBlock :=
  new.blocks.filter fun block => block.kind = .fact ∧
    ∃ primary ∈ block.factIds.head?, primary ∉ usedFactIds

/-- `_merge_section`, for a section that is there. -/
def mergeSection (old : CanvasSection) : Option CanvasSection →
    Except String (Option CanvasSection)
  | none =>
    let ungrounded := old.blocks.filter fun block => block.Ungrounded
    return if ungrounded = [] then none else some { old with blocks := ungrounded }
  | some new => do
    let carried ← old.blocks.mapM (carryBlock new)
    let kept := carried.reduceOption
    let ordered := kept.map Prod.fst ++ unusedBlocks new (kept.flatMap Prod.snd)
    let merged ← CanvasSection.make {
      id := old.id
      kind := new.kind
      title := old.title
      visible := old.visible
      pageBreakBefore := old.pageBreakBefore
      blocks := if ordered = [] then new.blocks else ordered }
    return some merged

/-- What becomes of a section of the edited canvas. -/
def syncSection (generated : CanvasDocument) (selectedKinds : List SectionKind)
    (old : CanvasSection) : Except String (Option CanvasSection) :=
  if old.kind ∈ selectedKinds then mergeSection old (sectionOf generated old.kind)
  else return some old

/-- The generated sections of the selected kinds that the edited canvas lacks. -/
def newSections (current generated : CanvasDocument) (selectedKinds : List SectionKind) :
    List CanvasSection :=
  generated.sections.filter fun new => new.kind ∈ selectedKinds ∧ new.kind ∉ current.kinds

/-- `apply_sync`. -/
def applySync (current generated : CanvasDocument) (selectedKinds : List SectionKind)
    (reset : Bool) : Except String CanvasDocument :=
  if reset then generated.read
  else do
    let merged ← current.sections.mapM (syncSection generated selectedKinds)
    CanvasDocument.make
      (merged.reduceOption ++ newSections current generated selectedKinds) current.style

end

end CareerOS
