/-
This file is the editor of a canvas: structural edits of the document, and a history
of documents that are undone and redone. The reducer keeps its state when an edit
returns the document it was given, the same object. Most edits build a new document
whether or not it differs from the old one, so the history is exact for edits that
change something; and the removal of a block drops every achievement section that is
empty, so a document keeps a section, and the other sections are left alone, only
where that takes away no more than the addressed one.
-/

import CareerOS.Resumes.SyncValidity

namespace CareerOS

open List (Perm Subperm)

/-! ### Moving an item -/

/-- `move`, or nothing where the items are returned as they are. -/
def move {Item : Type} (items : List Item) (source target : Int) : Option (List Item) :=
  if source < 0 ∨ target < 0 ∨ items.length ≤ source ∨ items.length ≤ target ∨ source = target then
    none
  else
    items[source.toNat]?.map fun item =>
      let next := items.eraseIdx source.toNat
      next.take target.toNat ++ item :: next.drop target.toNat

variable {Item : Type} {items moved : List Item} {source target : Int}

/-- An item that is moved leaves the order of the others. -/
theorem move_some (done : move items source target = some moved) : ∃ before item after front back,
      items = before ++ item :: after ∧ moved = front ++ item :: back ∧
        before ++ after = front ++ back ∧ (before.length : Int) = source ∧
        (front.length : Int) = target ∧ source ≠ target := by
  unfold move at done
  split at done
  · cases done
  · rename_i bounds
    simp only [not_or, not_lt, not_le] at bounds
    obtain ⟨low, small, high, bound, other⟩ := bounds
    have here : source.toNat < items.length := by omega
    rw [List.getElem?_eq_getElem here, Option.map_some] at done
    obtain rfl := Option.some.inj done
    refine ⟨items.take source.toNat, items[source.toNat], items.drop (source.toNat + 1), _, _, ?_,
      rfl, ?_, ?_, ?_, other⟩
    · rw [← List.drop_eq_getElem_cons here, List.take_append_drop]
    · rw [List.take_append_drop, List.eraseIdx_eq_take_drop_succ]
    · rw [List.length_take]
      omega
    · rw [List.length_take, List.length_eraseIdx_of_lt here]
      omega

theorem move_perm (done : move items source target = some moved) : moved.Perm items := by
  obtain ⟨before, item, after, front, back, rfl, rfl, others, -⟩ := move_some done
  have same : (item :: (front ++ back)).Perm (item :: (before ++ after)) := by rw [others]
  exact (List.perm_middle.trans same).trans List.perm_middle.symm

theorem move_ne
    (distinct : items.Nodup) (done : move items source target = some moved) : moved ≠ items := by
  obtain ⟨before, item, after, front, back, rfl, rfl, -, rfl, rfl, other⟩ := move_some done
  intro same
  obtain ⟨absentBefore, absentAfter⟩ := not_or.mp (mt List.mem_append.mpr
    (List.nodup_cons.mp (List.nodup_middle.mp distinct)).1)
  have fronts := ((List.append_cons_inj_of_notMem absentBefore absentAfter).mp same.symm).1
  exact other (fronts ▸ rfl)

/-- The items of a kind that the moved one is not of stay in order. -/
theorem filter_move (done : move items source target = some moved) {kind : Item → Bool}
    (at_ : ∀ item, items[source.toNat]? = some item → kind item = false) :
    moved.filter kind = items.filter kind := by
  obtain ⟨before, item, after, front, back, rfl, rfl, others, rfl, -⟩ := move_some done
  have out : kind item = false := at_ item (by simp)
  simp only [List.filter_append, List.filter_cons_of_neg (ne_true_of_eq_false out)]
  rw [← List.filter_append, ← others, List.filter_append]

/-- `findIndex`, or -1. -/
def findIndex {Item : Type} (found : Item → Bool) (items : List Item) : Int :=
  match items.findIdx? found with
  | some index => index
  | none => -1

variable {found : Item → Bool}

theorem of_findIndex {items : List Item} {item : Item}
    (at_ : items[(findIndex found items).toNat]? = some item) (known : 0 ≤ findIndex found items) :
    found item = true := by
  unfold findIndex at at_ known
  split at at_
  · rename_i index search
    obtain ⟨bound, holds, -⟩ := List.findIdx?_eq_some_iff_getElem.mp search
    rw [Int.toNat_natCast, List.getElem?_eq_getElem bound] at at_
    exact Option.some.inj at_ ▸ holds
  · rename_i search
    rw [search] at known
    exact absurd known (by decide)

/-! ### Changing an item -/

section

variable {Item : Type} {here : Item → Prop} [DecidablePred here] {update : Item → Item}

/-- `items.map(item => here(item) ? update(item) : item)`. -/
def updateWhere (here : Item → Prop) [DecidablePred here] (update : Item → Item)
    (items : List Item) : List Item :=
  items.map fun item => if here item then update item else item

theorem map_updateWhere {Key : Type} (key : Item → Key)
    (keeps : ∀ item, key (update item) = key item) (items : List Item) :
    (updateWhere here update items).map key = items.map key := by
  rw [updateWhere, List.map_map]
  refine List.map_congr_left fun item _ => ?_
  rw [Function.comp_apply]
  split
  · exact keeps item
  · rfl

theorem nodup_updateWhere {Key : Type} {key : Item → Key}
    (keeps : ∀ item, key (update item) = key item) {items : List Item}
    (distinct : (items.map key).Nodup) : ((updateWhere here update items).map key).Nodup := by
  rwa [map_updateWhere key keeps]

theorem filter_updateWhere (kind : Item → Bool) (keeps : ∀ item, kind (update item) = kind item)
    {items : List Item} (out : ∀ item ∈ items, here item → kind item = false) :
    (updateWhere here update items).filter kind = items.filter kind := by
  induction items with
  | nil => rfl
  | cons first rest inductionHypothesis =>
    have later := inductionHypothesis fun item member => out item (List.mem_cons_of_mem _ member)
    rw [updateWhere, List.map_cons, List.filter_cons, List.filter_cons]
    by_cases this : here first
    · have gone := out first List.mem_cons_self this
      rw [if_pos this, keeps, gone, if_neg Bool.false_ne_true, if_neg Bool.false_ne_true]
      exact later
    · rw [if_neg this]
      exact congrArg (fun tail => if kind first then first :: tail else tail) later

theorem updateWhere_ne {items : List Item} {item : Item} (member : item ∈ items)
    (this : here item) (changes : update item ≠ item) : updateWhere here update items ≠ items := by
  intro same
  have fixed := List.map_inj_left.mp (same.trans (List.map_id items).symm) item member
  rw [if_pos this] at fixed
  exact changes fixed

theorem forall_mem_updateWhere {items : List Item} {good : Item → Prop}
    (fine : ∀ item ∈ items, good item) (kept : ∀ item ∈ items, good (update item)) :
    ∀ item ∈ updateWhere here update items, good item := by
  intro item member
  obtain ⟨old, inside, rfl⟩ := List.mem_map.mp member
  split
  · exact kept old inside
  · exact fine old inside

end

/-! ### Edits -/

/-- `action.toIndex`, or `action.direction` where there is none. -/
inductive MoveTarget
  | toIndex (index : Int)
  | direction (step : Int)

/-- `action.toIndex ?? from + action.direction`. -/
def MoveTarget.from (target : MoveTarget) (source : Int) : Int :=
  match target with
  | .toIndex index => index
  | .direction step => source + step

/-- `Number(value)`. -/
inductive JsNumber
  | finite (number : Rat)
  | infinite (negative : Bool)
  | nan

/-- A value of an action, by what `Number` and `Boolean` make of it. -/
structure JsValue where
  number : JsNumber
  truthy : Bool

/-- `Math.max(0, Math.min(24, Number(value) || 0))`. -/
def JsValue.spacing (value : JsValue) : Rat :=
  match value.number with
  | .finite number => max 0 (min 24 number)
  | .infinite negative => if negative then 0 else 24
  | .nan => 0

/-- The fields of a block layout. -/
inductive LayoutField
  | spacingBeforePt
  | keepTogether

/-- `{ ...layout, [field]: value }`. -/
def LayoutField.set (field : LayoutField) (value : JsValue) (layout : CanvasBlockLayout) :
    CanvasBlockLayout :=
  match field with
  | .spacingBeforePt => { layout with spacingBeforePt := value.spacing }
  | .keepTogether => { layout with keepTogether := value.truthy }

/-- An edit of one section: `SET_SECTION_VISIBLE`, `SET_PAGE_BREAK`, `MOVE_BLOCK`,
`SET_BLOCK_VISIBLE` and `SET_BLOCK_LAYOUT`. -/
inductive SectionEdit
  | setVisible (visible : Bool)
  | setPageBreak (enabled : Bool)
  | moveBlock (blockId : String) (target : MoveTarget)
  | setBlockVisible (blockId : String) (visible : Bool)
  | setBlockLayout (blockId : String) (field : LayoutField) (value : JsValue)

/-- The block an edit of a section addresses. -/
def SectionEdit.block? : SectionEdit → Option String
  | .setVisible _ | .setPageBreak _ => none
  | .moveBlock blockId _ | .setBlockVisible blockId _ | .setBlockLayout blockId _ _ => some blockId

/-- Where a block is moved from. -/
def CanvasSection.sourceOf (part : CanvasSection) (blockId : String) : Int :=
  findIndex (fun block => block.id = blockId) part.blocks

/-- `section.blocks.map(...)` with a change of the block that has the id. -/
def CanvasSection.updateBlock (part : CanvasSection) (blockId : String)
    (update : CanvasBlock → CanvasBlock) : CanvasSection :=
  { part with blocks := updateWhere (fun block => block.id = blockId) update part.blocks }

/-- The section after the edit. -/
def SectionEdit.apply (edit : SectionEdit) (part : CanvasSection) : CanvasSection :=
  match edit with
  | .setVisible visible => { part with visible }
  | .setPageBreak enabled => { part with pageBreakBefore := enabled }
  | .moveBlock blockId target =>
    match move part.blocks (part.sourceOf blockId) (target.from (part.sourceOf blockId)) with
    | some blocks => { part with blocks }
    | none => part
  | .setBlockVisible blockId visible =>
    part.updateBlock blockId fun block => { block with visible }
  | .setBlockLayout blockId field value =>
    part.updateBlock blockId fun block => { block with layout := field.set value block.layout }

/-- A structural edit of a document. -/
inductive CanvasEdit
  | addManualClaim (blockId : String)
  | removeBlock (sectionId blockId : String)
  | moveSection (sectionId : String) (target : MoveTarget)
  | inSection (sectionId : String) (edit : SectionEdit)

/-- The section kind of manual claims. -/
def achievementKind : SectionKind := .career .achievement

/-- `manualClaim`. -/
def manualClaim (blockId : String) : CanvasBlock where
  id := blockId
  kind := .fact
  manualFields := [.title, .subtitle, .description, .bullets]

/-- The section that is made for the first manual claim, without its block. -/
def achievementSection : CanvasSection where
  id := "achievement"
  kind := achievementKind
  title := "RISULTATI"

/-- `updateSection`. -/
def updateSection (sections : List CanvasSection) (sectionId : String)
    (update : CanvasSection → CanvasSection) : List CanvasSection :=
  updateWhere (fun part => part.id = sectionId) update sections

/-- The sections after an edit, or nothing where `reduceDocument` returns its document. -/
def editSections (sections : List CanvasSection) : CanvasEdit → Option (List CanvasSection)
  | .addManualClaim blockId =>
    if 300 ≤ (sections.flatMap CanvasSection.blocks).length then none
    else
      match sections.find? fun part => part.kind = achievementKind with
      | some existing => some (updateSection sections existing.id fun part =>
          { part with blocks := part.blocks ++ [manualClaim blockId] })
      | none => some (sections ++ [{ achievementSection with blocks := [manualClaim blockId] }])
  | .removeBlock sectionId blockId =>
    some ((updateSection sections sectionId fun part =>
      { part with blocks := part.blocks.filter fun block => block.id ≠ blockId }).filter fun part =>
        part.kind ≠ achievementKind ∨ part.blocks ≠ [])
  | .moveSection sectionId target =>
    let source := findIndex (fun part => part.id = sectionId) sections
    move sections source (target.from source)
  | .inSection sectionId edit => some (updateSection sections sectionId edit.apply)

/-- `reduceDocument`, or nothing where it returns its document. -/
def reduceDocument (document : CanvasDocument) (edit : CanvasEdit) : Option CanvasDocument :=
  (editSections document.sections edit).map fun sections => { document with sections }

/-! ### The history -/

/-- A structural action. -/
inductive CanvasAction
  | edit (edit : CanvasEdit)
  | undo
  | redo

/-- The state of the editor. -/
structure CanvasState where
  past : List CanvasDocument
  present : CanvasDocument
  future : List CanvasDocument
  deriving DecidableEq

/-- `createCanvasState`. -/
def createCanvasState (document : CanvasDocument) : CanvasState := ⟨[], document, []⟩

/-- `HISTORY_LIMIT`. -/
def historyLimit : Nat := 50

/-- `[...past, present].slice(-HISTORY_LIMIT)`. -/
def pushPast (past : List CanvasDocument) (present : CanvasDocument) : List CanvasDocument :=
  (past ++ [present]).drop (past.length + 1 - historyLimit)

/-- `canvasReducer`. -/
def canvasReducer (state : CanvasState) : CanvasAction → CanvasState
  | .edit edit =>
    match reduceDocument state.present edit with
    | some present => ⟨pushPast state.past state.present, present, []⟩
    | none => state
  | .undo =>
    match state.past.getLast? with
    | some present =>
      ⟨state.past.dropLast, present, (state.present :: state.future).take historyLimit⟩
    | none => state
  | .redo =>
    match state.future with
    | present :: future => ⟨pushPast state.past state.present, present, future⟩
    | [] => state

/-! ### What an edit is to keep -/

/-- Is the section one that the edit addresses? -/
def CanvasEdit.addresses (edit : CanvasEdit) (part : CanvasSection) : Bool :=
  match edit with
  | .addManualClaim _ => part.kind = achievementKind
  | .removeBlock sectionId _ | .moveSection sectionId _ | .inSection sectionId _ =>
    part.id = sectionId

/-- The block an edit addresses. -/
def CanvasEdit.block? : CanvasEdit → Option String
  | .addManualClaim blockId | .removeBlock _ blockId => some blockId
  | .moveSection _ _ => none
  | .inSection _ edit => edit.block?

/-- A section differs from another one in no more than the block, or in no more than whether it is
shown and starts a page. -/
def Touched (block? : Option String) (old part : CanvasSection) : Prop :=
  match block? with
  | some blockId => part = { old with blocks := part.blocks } ∧
      part.blocks.filter (fun block => block.id ≠ blockId) =
        old.blocks.filter fun block => block.id ≠ blockId
  | none =>
    part = { old with visible := part.visible, pageBreakBefore := part.pageBreakBefore }

/-- An edit leaves everything but the section and the block it addresses. -/
structure EditFrame (edit : CanvasEdit) (before after : CanvasDocument) : Prop where
  rest : after = { before with sections := after.sections }
  sections : after.sections.filter (fun part => !edit.addresses part) =
    before.sections.filter fun part => !edit.addresses part
  touched : ∀ part ∈ after.sections,
    ∃ old ∈ achievementSection :: before.sections, Touched edit.block? old part

/-- What is to hold of every action. -/
structure ActionLaws (state : CanvasState) (action : CanvasAction) : Prop where
  valid : (canvasReducer state action).present.Valid
  frame : ∀ edit, action = .edit edit →
    EditFrame edit state.present (canvasReducer state action).present
  unchanged : (canvasReducer state action).present = state.present →
    canvasReducer state action = state
  undone : ∀ edit, action = .edit edit →
    (canvasReducer state action).present ≠ state.present →
      (canvasReducer (canvasReducer state action) .undo).present = state.present ∧
      (canvasReducer (canvasReducer (canvasReducer state action) .undo) .redo).present =
        (canvasReducer state action).present

/-! ### The edits that keep it -/

/-- Does the edit change the section? -/
def SectionEdit.Changes (edit : SectionEdit) (part : CanvasSection) : Prop :=
  match edit with
  | .setVisible visible => part.visible ≠ visible
  | .setPageBreak enabled => part.pageBreakBefore ≠ enabled
  | .moveBlock blockId target =>
    let source := part.sourceOf blockId
    let goal := target.from source
    0 ≤ source ∧ 0 ≤ goal ∧ goal < part.blocks.length ∧ source ≠ goal
  | .setBlockVisible blockId visible =>
    ∃ block ∈ part.blocks, block.id = blockId ∧ block.visible ≠ visible
  | .setBlockLayout blockId field value =>
    ∃ block ∈ part.blocks, block.id = blockId ∧ field.set value block.layout ≠ block.layout

/-- An added block has a new id, and a new section for it an id that no section has. A removal
finds its block, or its section is an empty achievement section; another block or section remains,
and no other achievement section is empty. An edit of a section changes it. -/
def CanvasEdit.Proper (sections : List CanvasSection) : CanvasEdit → Prop
  | .addManualClaim blockId =>
    (isIdText blockId = true ∧
      blockId ∉ (sections.flatMap CanvasSection.blocks).map CanvasBlock.id) ∧
    ((sections.flatMap CanvasSection.blocks).length < 300 →
      (∀ part ∈ sections, part.kind ≠ achievementKind) →
        ∀ part ∈ sections, part.id ≠ achievementSection.id)
  | .removeBlock sectionId blockId =>
    (∃ part ∈ sections, part.id = sectionId ∧
      ((∃ block ∈ part.blocks, block.id = blockId) ∨
        part.kind = achievementKind ∧ part.blocks = [])) ∧
    (∃ part ∈ sections, part.kind ≠ achievementKind ∨
      ∃ block ∈ part.blocks, part.id ≠ sectionId ∨ block.id ≠ blockId) ∧
    ∀ part ∈ sections, part.id ≠ sectionId → part.kind = achievementKind → part.blocks ≠ []
  | .moveSection _ _ => True
  | .inSection sectionId edit => ∃ part ∈ sections, part.id = sectionId ∧ edit.Changes part

/-- Every edit of a run is proper in the document it meets. -/
def ProperRun : CanvasState → List CanvasAction → Prop
  | _, [] => True
  | state, action :: later =>
    (∀ edit, action = .edit edit → edit.Proper state.present.sections) ∧
      ProperRun (canvasReducer state action) later

/-- The laws at every action of a run. -/
def LawfulRun : CanvasState → List CanvasAction → Prop
  | _, [] => True
  | state, action :: later =>
    ActionLaws state action ∧ LawfulRun (canvasReducer state action) later

/-! ### A change of one section -/

theorem touched_refl (block? : Option String) (part : CanvasSection) :
    Touched block? part part := by
  cases block? with
  | none => rfl
  | some blockId => exact ⟨rfl, rfl⟩

theorem consistent_of_subperm {old new : List CanvasSection}
    (consistent : CanvasDocument.Consistent old) (some : new ≠ [])
    (ids : List.Subperm (new.map CanvasSection.id) (old.map CanvasSection.id))
    (kinds : List.Subperm (new.map CanvasSection.kind) (old.map CanvasSection.kind))
    (blocks : List.Subperm ((new.flatMap CanvasSection.blocks).map CanvasBlock.id)
      ((old.flatMap CanvasSection.blocks).map CanvasBlock.id))
    (allowed : ∀ part ∈ new, ∀ block ∈ part.blocks, block.kind = part.kind.blockKind) :
    CanvasDocument.Consistent new := by
  have nodup {Key : Type} {few many : List Key} (less : few.Subperm many) (distinct : many.Nodup) :
      few.Nodup := by
    obtain ⟨middle, same, inside⟩ := less
    exact same.nodup_iff.mp (distinct.sublist inside)
  have fewer := blocks.length_le
  rw [List.length_map, List.length_map] at fewer
  exact {
    some
    sectionIds := nodup ids consistent.sectionIds
    sectionKinds := nodup kinds consistent.sectionKinds
    blockIds := nodup blocks consistent.blockIds
    fewBlocks := fewer.trans consistent.fewBlocks
    allowed }

variable {sectionId : String}

/-- The block ids of sections of which some lost blocks. -/
theorem blocks_updateSection {sections : List CanvasSection}
    {update : CanvasSection → CanvasSection} (fewer : ∀ part ∈ sections,
      List.Subperm ((update part).blocks.map CanvasBlock.id) (part.blocks.map CanvasBlock.id)) :
    List.Subperm (((updateSection sections sectionId update).flatMap CanvasSection.blocks).map
      CanvasBlock.id) ((sections.flatMap CanvasSection.blocks).map CanvasBlock.id) := by
  induction sections with
  | nil => exact List.Subperm.refl _
  | cons first rest inductionHypothesis =>
    have later := inductionHypothesis fun part member => fewer part (List.mem_cons_of_mem _ member)
    rw [updateSection, updateWhere, List.map_cons, List.flatMap_cons, List.flatMap_cons,
      List.map_append, List.map_append]
    refine List.Subperm.append ?_ later
    split
    · exact fewer first List.mem_cons_self
    · exact List.Subperm.refl _

/-- A change of a section that keeps its head, takes no block in, and leaves it valid. -/
structure KeepsSection (block? : Option String) (part result : CanvasSection) : Prop where
  id : result.id = part.id
  kind : result.kind = part.kind
  blocks : List.Subperm (result.blocks.map CanvasBlock.id) (part.blocks.map CanvasBlock.id)
  allowed : ∀ block ∈ result.blocks, ∃ old ∈ part.blocks, old.kind = block.kind
  touched : Touched block? part result
  valid : part.Valid → result.Valid

theorem KeepsSection.refl (block? : Option String) (part : CanvasSection) :
    KeepsSection block? part part where
  id := rfl
  kind := rfl
  blocks := List.Subperm.refl _
  allowed := fun block member => ⟨block, member, rfl⟩
  touched := touched_refl _ _
  valid := fun whole => whole

theorem CanvasSection.keeps_updateBlock (part : CanvasSection) (blockId : String)
    {update : CanvasBlock → CanvasBlock} (id : ∀ block, (update block).id = block.id)
    (kind : ∀ block, (update block).kind = block.kind)
    (valid : ∀ block : CanvasBlock, block.Valid → (update block).Valid) :
    KeepsSection (some blockId) part (part.updateBlock blockId update) where
  id := rfl
  kind := rfl
  blocks := List.Perm.subperm (List.Perm.of_eq (map_updateWhere _ id part.blocks))
  allowed := forall_mem_updateWhere (fun block member => ⟨block, member, rfl⟩)
    fun block member => ⟨block, member, (kind block).symm⟩
  touched := ⟨rfl, filter_updateWhere _ (fun block => by rw [id])
    fun block _ here => by rw [here, decide_eq_false (not_not_intro rfl)]⟩
  valid := fun whole => { whole with
    fewBlocks := (List.length_map _).le.trans whole.fewBlocks
    blocks := forall_mem_updateWhere whole.blocks fun block member =>
      valid block (whole.blocks block member) }

theorem LayoutField.fits_set (field : LayoutField) (value : JsValue) {layout : CanvasBlockLayout}
    (fits : layout.Fits) : (field.set value layout).Fits := by
  cases field with
  | keepTogether => exact fits
  | spacingBeforePt =>
    show 0 ≤ value.spacing ∧ value.spacing ≤ 24
    unfold JsValue.spacing
    split
    · rename_i number _
      exact ⟨le_max_left (0 : Rat) _, max_le (by decide) (min_le_left (24 : Rat) number)⟩
    · split <;> decide
    · decide

theorem findIndex_lt {items : List Item}
    (known : 0 ≤ findIndex found items) : findIndex found items < items.length := by
  unfold findIndex at known ⊢
  split at known
  · rename_i index search
    obtain ⟨bound, -⟩ := List.findIdx?_eq_some_iff_getElem.mp search
    exact Int.ofNat_lt.mpr bound
  · exact absurd known (by decide)

/-- What is moved away from the place of an item is that item. -/
theorem move_findIndex {target : Int}
    (done : move items (findIndex found items) target = some moved) :
    moved.Perm items ∧
      moved.filter (fun item => !found item) = items.filter fun item => !found item := by
  refine ⟨move_perm done, filter_move done fun item at_ => ?_⟩
  obtain ⟨before, _, _, _, _, _, _, _, start, -⟩ := move_some done
  rw [of_findIndex at_ (start ▸ Int.natCast_nonneg _)]
  rfl

theorem SectionEdit.keeps (edit : SectionEdit) (part : CanvasSection) :
    KeepsSection edit.block? part (edit.apply part) := by
  cases edit with
  | setVisible visible =>
    exact { KeepsSection.refl none part with
      touched := rfl, valid := fun whole => { whole with } }
  | setPageBreak enabled =>
    exact { KeepsSection.refl none part with
      touched := rfl, valid := fun whole => { whole with } }
  | moveBlock blockId target =>
    unfold apply
    dsimp only
    split
    · rename_i blocks done
      obtain ⟨same, others⟩ := move_findIndex done
      exact {
        id := rfl
        kind := rfl
        blocks := (same.map CanvasBlock.id).subperm
        allowed := fun block member => ⟨block, same.mem_iff.mp member, rfl⟩
        touched := ⟨rfl, by simpa using others⟩
        valid := fun whole => { whole with
          fewBlocks := same.length_eq.trans_le whole.fewBlocks
          blocks := fun block member => whole.blocks block (same.mem_iff.mp member) } }
    · exact KeepsSection.refl _ part
  | setBlockVisible blockId visible =>
    exact part.keeps_updateBlock blockId (fun _ => rfl) (fun _ => rfl) fun block valid =>
      { valid with }
  | setBlockLayout blockId field value =>
    exact part.keeps_updateBlock blockId (fun _ => rfl) (fun _ => rfl) fun block valid =>
      { valid with layout := field.fits_set value valid.layout }

theorem SectionEdit.apply_ne {edit : SectionEdit} {part : CanvasSection}
    (distinct : (part.blocks.map CanvasBlock.id).Nodup) (changes : edit.Changes part) :
    edit.apply part ≠ part := by
  have blocks {blockId : String} {update : CanvasBlock → CanvasBlock}
      (other : ∃ block ∈ part.blocks, block.id = blockId ∧ update block ≠ block) :
      part.updateBlock blockId update ≠ part := by
    obtain ⟨block, member, here, differs⟩ := other
    exact fun same => updateWhere_ne member here differs (congrArg CanvasSection.blocks same)
  cases edit with
  | setVisible visible => exact fun same => changes (congrArg CanvasSection.visible same).symm
  | setPageBreak enabled =>
    exact fun same => changes (congrArg CanvasSection.pageBreakBefore same).symm
  | moveBlock blockId target =>
    obtain ⟨known, low, bound, other⟩ := changes
    unfold apply
    dsimp only
    split
    · rename_i blocks done
      exact fun same => move_ne distinct.of_map done (congrArg CanvasSection.blocks same)
    · rename_i refused
      have here := findIndex_lt known
      unfold move at refused
      rw [if_neg (by unfold CanvasSection.sourceOf at *; omega), Option.map_eq_none_iff,
        List.getElem?_eq_none_iff] at refused
      unfold CanvasSection.sourceOf at refused
      omega
  | setBlockVisible blockId visible =>
    obtain ⟨block, member, here, differs⟩ := changes
    exact blocks ⟨block, member, here, fun same =>
      differs (congrArg CanvasBlock.visible same).symm⟩
  | setBlockLayout blockId field value =>
    obtain ⟨block, member, here, differs⟩ := changes
    exact blocks ⟨block, member, here, fun same => differs (congrArg CanvasBlock.layout same)⟩

/-! ### The edits -/

/-- What a proper edit does to the sections of a valid document. -/
structure EditSpec (edit : CanvasEdit) (before after : List CanvasSection) : Prop where
  valid : ∀ part ∈ after, part.Valid
  consistent : CanvasDocument.Consistent after
  others : after.filter (fun part => !edit.addresses part) =
    before.filter fun part => !edit.addresses part
  touched : ∀ part ∈ after, ∃ old ∈ achievementSection :: before, Touched edit.block? old part
  differs : after ≠ before

section

variable {sections after : List CanvasSection} (valid : ∀ part ∈ sections, part.Valid)
  (consistent : CanvasDocument.Consistent sections)

include valid consistent

theorem editSpec_inSection {edit : SectionEdit}
    (proper : (CanvasEdit.inSection sectionId edit).Proper sections) :
    EditSpec (.inSection sectionId edit) sections (updateSection sections sectionId edit.apply) where
  valid := forall_mem_updateWhere valid fun part member => (edit.keeps part).valid (valid part member)
  consistent := by
    refine consistent_of_subperm consistent (mt List.map_eq_nil_iff.mp consistent.some)
      (List.Perm.of_eq (map_updateWhere _ (fun part => (edit.keeps part).id) sections)).subperm
      (List.Perm.of_eq (map_updateWhere _ (fun part => (edit.keeps part).kind) sections)).subperm
      (blocks_updateSection fun part _ => (edit.keeps part).blocks) ?_
    refine forall_mem_updateWhere consistent.allowed fun part member block inside => ?_
    obtain ⟨old, among, same⟩ := (edit.keeps part).allowed block inside
    rw [← same, (edit.keeps part).kind]
    exact consistent.allowed part member old among
  others := filter_updateWhere _
    (fun part => by simp only [CanvasEdit.addresses, (edit.keeps part).id])
    fun part _ here => by simp [CanvasEdit.addresses, here]
  touched := forall_mem_updateWhere
    (fun part member => ⟨part, List.mem_cons_of_mem _ member, touched_refl _ part⟩)
    fun part member => ⟨part, List.mem_cons_of_mem _ member, (edit.keeps part).touched⟩
  differs := by
    obtain ⟨part, member, here, changes⟩ := proper
    have distinct := (List.nodup_flatMap.mp
      (List.map_flatMap.symm ▸ consistent.blockIds)).1 part member
    exact updateWhere_ne member here (SectionEdit.apply_ne distinct changes)

theorem editSpec_moveSection {target : MoveTarget}
    (edited : editSections sections (.moveSection sectionId target) = some after) :
    EditSpec (.moveSection sectionId target) sections after := by
  obtain ⟨same, others⟩ := move_findIndex edited
  exact {
    valid := fun part member => valid part (same.mem_iff.mp member)
    consistent := consistent_of_subperm consistent
      (fun none => consistent.some (List.nil_perm.mp (none ▸ same)))
      (same.map _).subperm (same.map _).subperm ((same.flatMap_right _).map _).subperm
      fun part member => consistent.allowed part (same.mem_iff.mp member)
    others
    touched := fun part member =>
      ⟨part, List.mem_cons_of_mem _ (same.mem_iff.mp member), touched_refl _ part⟩
    differs := move_ne consistent.sectionIds.of_map edited }

theorem editSpec_removeBlock {sectionId blockId : String}
    (proper : (CanvasEdit.removeBlock sectionId blockId).Proper sections)
    (edited : editSections sections (.removeBlock sectionId blockId) = some after) :
    EditSpec (.removeBlock sectionId blockId) sections after := by
  obtain ⟨⟨addressed, isThere, here, hit⟩, ⟨kept, among, remains⟩, solid⟩ := proper
  obtain rfl := Option.some.inj edited
  let drop (part : CanvasSection) : CanvasSection :=
    { part with blocks := part.blocks.filter fun block => block.id ≠ blockId }
  let middle := updateSection sections sectionId drop
  have ids : (updateSection sections sectionId drop).map CanvasSection.id =
      sections.map CanvasSection.id := map_updateWhere _ (fun _ => by rfl) sections
  have kinds : (updateSection sections sectionId drop).map CanvasSection.kind =
      sections.map CanvasSection.kind := map_updateWhere _ (fun _ => by rfl) sections
  have inMiddle (part : CanvasSection) : part ∈ middle → ∃ old ∈ sections,
      (if old.id = sectionId then drop old else old) = part := List.mem_map.mp
  have shown (old : CanvasSection) : (if old.id = sectionId then drop old else old).id = old.id ∧
      (if old.id = sectionId then drop old else old).kind = old.kind ∧
      ∀ block, block ∈ (if old.id = sectionId then drop old else old).blocks ↔
        block ∈ old.blocks ∧ (old.id ≠ sectionId ∨ block.id ≠ blockId) := by
    by_cases this : old.id = sectionId
    · simp [drop, this]
    · simp [this]
  have less (part : CanvasSection) : part.kind ≠ achievementKind ∨ part.blocks ≠ [] ↔
      decide (part.kind ≠ achievementKind ∨ part.blocks ≠ []) = true := decide_eq_true_iff.symm
  exact {
    valid := fun part member => by
      refine forall_mem_updateWhere valid (fun old inside => ?_) part (List.mem_of_mem_filter member)
      exact { valid old inside with
        fewBlocks := (List.length_filter_le _ _).trans (valid old inside).fewBlocks
        blocks := fun block among =>
          (valid old inside).blocks block (List.mem_of_mem_filter among) }
    consistent := by
      refine consistent_of_subperm consistent (List.ne_nil_of_mem (List.mem_filter.mpr
          ⟨List.mem_map.mpr ⟨kept, among, rfl⟩, (less _).mp ?_⟩))
        ((List.filter_sublist.map _).subperm.trans (List.Perm.of_eq ids).subperm)
        ((List.filter_sublist.map _).subperm.trans (List.Perm.of_eq kinds).subperm)
        (((List.filter_sublist.flatMap _).map _).subperm.trans
          (blocks_updateSection fun part _ => (List.filter_sublist.map _).subperm)) ?_
      · rw [(shown kept).2.1]
        refine remains.imp_right fun ⟨block, inside, other⟩ => ?_
        exact List.ne_nil_of_mem (((shown kept).2.2 block).mpr ⟨inside, other⟩)
      · intro part member block inside
        obtain ⟨old, origin, rfl⟩ := inMiddle part (List.mem_of_mem_filter member)
        rw [(shown old).2.1]
        exact consistent.allowed old origin block (((shown old).2.2 block).mp inside).1
    others := by
      rw [List.filter_filter]
      have apart : (updateSection sections sectionId drop).filter (fun part => !(part.id = sectionId : Bool)) =
          sections.filter fun part => !(part.id = sectionId : Bool) :=
        filter_updateWhere _ (fun _ => by rfl) fun part _ same => by simp [same]
      refine (List.filter_congr fun part member => ?_).trans apart
      obtain ⟨old, origin, rfl⟩ := inMiddle part member
      by_cases this : old.id = sectionId
      · rw [decide_eq_true ((shown old).1.trans this)]
        show (!decide ((if old.id = sectionId then drop old else old).id = sectionId) && _) = false
        rw [decide_eq_true ((shown old).1.trans this)]
        rfl
      · have full := or_iff_not_imp_left.mpr fun kind =>
          solid old origin this (not_not.mp kind)
        rw [if_neg this, (less old).mp full, Bool.and_true]
        rfl
    touched := fun part member => by
      obtain ⟨old, origin, rfl⟩ := inMiddle part (List.mem_of_mem_filter member)
      refine ⟨old, List.mem_cons_of_mem _ origin, ?_⟩
      split
      · exact ⟨rfl, by simp [drop, List.filter_filter]⟩
      · exact touched_refl _ _
    differs := fun same => by
      have stays : addressed ∈ middle.filter fun part =>
          part.kind ≠ achievementKind ∨ part.blocks ≠ [] := same.symm ▸ isThere
      obtain ⟨inside, full⟩ := List.mem_filter.mp stays
      rcases hit with ⟨block, member, isBlock⟩ | ⟨kind, empty⟩
      · obtain ⟨old, origin, rfl⟩ := inMiddle addressed inside
        obtain other | other := (((shown old).2.2 block).mp member).2
        · exact other ((shown old).1.symm.trans here)
        · exact other isBlock
      · exact ((less addressed).mpr full).elim (fun other => other kind) fun other => other empty }

end

theorem updateWhere_append_cons {here : Item → Prop} [DecidablePred here]
    {update : Item → Item} {before after : List Item} {item : Item}
    (first : ∀ other ∈ before, ¬here other) (this : here item)
    (last : ∀ other ∈ after, ¬here other) :
    updateWhere here update (before ++ item :: after) = before ++ update item :: after := by
  have fixed {items : List Item} (none : ∀ other ∈ items, ¬here other) :
      items.map (fun item => if here item then update item else item) = items :=
    (List.map_congr_left fun other member => if_neg (none other member)).trans (List.map_id items)
  rw [updateWhere, List.map_append, List.map_cons, if_pos this, fixed first, fixed last]

theorem manualClaim_valid {blockId : String} (id : isIdText blockId = true) :
    (manualClaim blockId).Valid where
  id := id
  fewFacts := Nat.zero_le _
  canonical := fun _ member => by cases member
  distinctFacts := List.nodup_nil
  content := CanvasContent.read_valid (show CanvasContent.read {} = .ok {} by decide +kernel)
  fewFields := show 4 ≤ 5 by decide
  distinctFields := show [ManualField.title, .subtitle, .description, .bullets].Nodup by decide
  layout := show CanvasBlockLayout.Fits {} by decide
  identity := nofun

theorem editSpec_addManualClaim {sections after : List CanvasSection} {blockId : String}
    (valid : ∀ part ∈ sections, part.Valid) (consistent : CanvasDocument.Consistent sections)
    (proper : (CanvasEdit.addManualClaim blockId).Proper sections)
    (edited : editSections sections (.addManualClaim blockId) = some after) :
    EditSpec (.addManualClaim blockId) sections after := by
  obtain ⟨⟨id, fresh⟩, free⟩ := proper
  rw [editSections] at edited
  split at edited
  · cases edited
  rename_i room
  have few := not_le.mp room
  have claim := manualClaim_valid id
  -- What is left to say of a document that holds one block more.
  have added {parts : List CanvasSection} (ids : (parts.map CanvasSection.id).Nodup)
      (kinds : (parts.map CanvasSection.kind).Nodup)
      (blocks : ((parts.flatMap CanvasSection.blocks).map CanvasBlock.id).Perm
        (blockId :: (sections.flatMap CanvasSection.blocks).map CanvasBlock.id))
      (allowed : ∀ part ∈ parts, ∀ block ∈ part.blocks, block.kind = part.kind.blockKind) :
      CanvasDocument.Consistent parts := by
    have length := blocks.length_eq
    rw [List.length_map, List.length_cons, List.length_map] at length
    exact {
      some := by
        rintro rfl
        cases length
      sectionIds := ids
      sectionKinds := kinds
      blockIds := blocks.nodup_iff.mpr (List.nodup_cons.mpr ⟨fresh, consistent.blockIds⟩)
      fewBlocks := length.trans_le few
      allowed }
  split at edited
  · rename_i existing search
    obtain rfl := Option.some.inj edited
    have isThere := List.mem_of_find?_eq_some search
    have kind : existing.kind = achievementKind := by simpa using List.find?_some search
    have only {part : CanvasSection} (member : part ∈ sections) (same : part.id = existing.id) :
        part = existing := List.inj_on_of_nodup_map consistent.sectionIds member isThere same
    exact {
      valid := forall_mem_updateWhere valid fun part member => { valid part member with
        fewBlocks := by
          have bound := length_blocks_le member
          rw [List.length_append, List.length_singleton]
          omega
        blocks := List.forall_mem_append.mpr ⟨(valid part member).blocks,
          List.forall_mem_singleton.mpr claim⟩ }
      consistent := by
        refine added
          (nodup_updateWhere (fun _ => by rfl) consistent.sectionIds)
          (nodup_updateWhere (fun _ => by rfl) consistent.sectionKinds)
          ?_ ?_
        · obtain ⟨before, behind, rfl⟩ := List.append_of_mem isThere
          have apart := consistent.sectionIds
          rw [List.map_append, List.map_cons, List.nodup_middle, List.nodup_cons] at apart
          replace apart := apart.1
          simp only [List.mem_append, not_or, List.mem_map, not_exists, not_and] at apart
          rw [updateSection, updateWhere_append_cons apart.1 rfl apart.2]
          have same : (manualClaim blockId ::
                (before ++ existing :: behind).flatMap CanvasSection.blocks).Perm
              ((before ++ { existing with blocks := existing.blocks ++ [manualClaim blockId] } ::
                behind).flatMap CanvasSection.blocks) := by
            simp only [List.flatMap_append, List.flatMap_cons, List.append_assoc,
              List.singleton_append]
            rw [← List.append_assoc, ← List.append_assoc]
            exact List.perm_middle.symm
          exact (same.map CanvasBlock.id).symm
        · intro part member block inside
          obtain ⟨old, origin, rfl⟩ := List.mem_map.mp member
          split at inside
          · rename_i same
            obtain rfl := only origin same
            rw [if_pos rfl]
            rcases List.mem_append.mp inside with former | new
            · exact consistent.allowed _ origin block former
            · rw [List.mem_singleton.mp new]
              exact (congrArg SectionKind.blockKind kind).symm
          · rename_i other
            rw [if_neg other]
            exact consistent.allowed old origin block inside
      others := filter_updateWhere _ (fun _ => by rfl) fun part member same => by
        simp [CanvasEdit.addresses, only member same, kind]
      touched := forall_mem_updateWhere
        (fun part member => ⟨part, List.mem_cons_of_mem _ member, touched_refl _ part⟩)
        fun part member => ⟨part, List.mem_cons_of_mem _ member, rfl, by
          simp [manualClaim]⟩
      differs := updateWhere_ne isThere rfl fun same => by
        have longer := congrArg (fun part => part.blocks.length) same
        simp at longer }
  · rename_i search
    obtain rfl := Option.some.inj edited
    have other : ∀ part ∈ sections, part.kind ≠ achievementKind := fun part member =>
      of_decide_eq_false (Bool.not_eq_true _ ▸ List.find?_eq_none.mp search part member)
    have ids := free few other
    exact {
      valid := List.forall_mem_append.mpr ⟨valid, List.forall_mem_singleton.mpr {
        id := show isIdText "achievement" = true from rfl
        title := show IsPlain "RISULTATI" ∧ "RISULTATI".length ≤ 120 from ⟨rfl, by decide⟩
        fewBlocks := show 1 ≤ 300 by decide
        blocks := List.forall_mem_singleton.mpr claim }⟩
      consistent := by
        refine added ?_ ?_ ?_ ?_
        · rw [List.map_append]
          exact List.nodup_append.mpr ⟨consistent.sectionIds, List.nodup_singleton _, by
            simpa using ids⟩
        · rw [List.map_append]
          exact List.nodup_append.mpr ⟨consistent.sectionKinds, List.nodup_singleton _, by
            simpa [achievementSection] using other⟩
        · rw [List.flatMap_append, List.map_append]
          exact List.perm_append_singleton _ _
        · refine List.forall_mem_append.mpr ⟨consistent.allowed, List.forall_mem_singleton.mpr ?_⟩
          exact List.forall_mem_singleton.mpr rfl
      others := by
        rw [List.filter_append]
        exact List.append_nil _
      touched := List.forall_mem_append.mpr
        ⟨fun part member => ⟨part, List.mem_cons_of_mem _ member, touched_refl _ part⟩,
          List.forall_mem_singleton.mpr ⟨achievementSection, List.mem_cons_self, rfl, by
            simp [manualClaim, achievementSection]⟩⟩
      differs := fun same => by
        have longer := congrArg List.length same
        simp at longer }

theorem editSpec_of_proper {sections after : List CanvasSection} {edit : CanvasEdit}
    (valid : ∀ part ∈ sections, part.Valid) (consistent : CanvasDocument.Consistent sections)
    (proper : edit.Proper sections) (edited : editSections sections edit = some after) :
    EditSpec edit sections after := by
  cases edit with
  | addManualClaim blockId => exact editSpec_addManualClaim valid consistent proper edited
  | removeBlock sectionId blockId => exact editSpec_removeBlock valid consistent proper edited
  | moveSection sectionId target => exact editSpec_moveSection valid consistent edited
  | inSection sectionId edit =>
    obtain rfl := Option.some.inj edited
    exact editSpec_inSection valid consistent proper

/-! ### Runs -/

/-- All documents of the state. -/
def CanvasState.history (state : CanvasState) : List CanvasDocument :=
  state.past ++ state.present :: state.future

/-- The documents are valid, and none is equal to the one before it. -/
structure CanvasState.Sound (state : CanvasState) : Prop where
  valid : ∀ document ∈ state.history, document.Valid
  distinct : state.history.IsChain (· ≠ ·)

theorem isChain_of_part {related : Item → Item → Prop} {items part : List Item}
    (chain : items.IsChain related) (inside : part <:+: items) : part.IsChain related := by
  obtain ⟨before, after, rfl⟩ := inside
  exact chain.left_of_append.right_of_append

/-- A part of a sound history is sound. -/
theorem CanvasState.Sound.of_part {state other : CanvasState} (sound : state.Sound)
    (part : other.history <:+: state.history) : other.Sound where
  valid := fun document member => sound.valid document (part.subset member)
  distinct := isChain_of_part sound.distinct part

theorem pushPast_eq (past : List CanvasDocument) (present : CanvasDocument) :
    pushPast past present = past.drop (past.length + 1 - historyLimit) ++ [present] :=
  List.drop_append_of_le_length (by unfold historyLimit; omega)

variable {state : CanvasState}

theorem edit_spec {edit : CanvasEdit} (sound : state.Sound)
    (proper : edit.Proper state.present.sections) :
    canvasReducer state (.edit edit) = state ∨ ∃ present,
      canvasReducer state (.edit edit) = ⟨pushPast state.past state.present, present, []⟩ ∧
        present.Valid ∧ present ≠ state.present ∧ EditFrame edit state.present present := by
  have whole := sound.valid state.present (List.mem_append_right _ List.mem_cons_self)
  cases edited : editSections state.present.sections edit with
  | none =>
    refine .inl ?_
    simp only [canvasReducer, reduceDocument, edited, Option.map_none]
  | some sections =>
    have spec := editSpec_of_proper whole.sections whole.consistent proper edited
    refine .inr ⟨{ state.present with sections }, ?_, ?_⟩
    · simp only [canvasReducer, reduceDocument, edited, Option.map_some]
    exact ⟨{ whole with sections := spec.valid, consistent := spec.consistent },
      fun same => spec.differs (congrArg CanvasDocument.sections same),
      { rest := rfl, sections := spec.others, touched := spec.touched }⟩

/-- An action keeps the history sound. -/
theorem CanvasState.Sound.reduce {action : CanvasAction} (sound : state.Sound)
    (proper : ∀ edit, action = .edit edit → edit.Proper state.present.sections) :
    (canvasReducer state action).Sound := by
  cases action with
  | edit edit =>
    obtain same | ⟨present, next, valid, differs, -⟩ := edit_spec sound (proper edit rfl)
    · rwa [same]
    have part : pushPast state.past state.present <:+: state.history := by
      have split : state.history = state.past ++ [state.present] ++ state.future :=
        List.append_cons _ _ _
      rw [pushPast_eq, split]
      exact (((List.suffix_append_inj_of_length_eq rfl).mpr ⟨List.drop_suffix _ _, rfl⟩).isInfix).trans
        (List.prefix_append _ _).isInfix
    rw [next]
    constructor
    · exact List.forall_mem_append.mpr ⟨fun document member =>
        sound.valid document (part.subset member), List.forall_mem_singleton.mpr valid⟩
    · refine List.isChain_append.mpr ⟨isChain_of_part sound.distinct part,
        List.isChain_singleton _, ?_⟩
      rw [pushPast_eq, List.getLast?_concat]
      rintro _ ⟨⟩ _ ⟨⟩
      exact differs.symm
  | undo =>
    unfold canvasReducer
    dsimp only
    split
    · rename_i present last
      obtain ⟨past, split⟩ := List.getLast?_eq_some_iff.mp last
      refine sound.of_part (List.IsPrefix.isInfix ?_)
      unfold CanvasState.history
      rw [split, List.dropLast_concat, List.append_assoc]
      exact (List.prefix_append_right_inj _).mpr
        ((List.prefix_append_right_inj [present]).mpr (List.take_prefix _ _))
    · exact sound
  | redo =>
    unfold canvasReducer
    dsimp only
    split
    · rename_i present future ahead
      refine sound.of_part (List.IsSuffix.isInfix ?_)
      unfold CanvasState.history
      rw [ahead, pushPast_eq, List.append_assoc]
      exact (List.suffix_append_inj_of_length_eq rfl).mpr ⟨List.drop_suffix _ _, rfl⟩
    · exact sound

theorem actionLaws_of_sound {action : CanvasAction} (sound : state.Sound)
    (proper : ∀ edit, action = .edit edit → edit.Proper state.present.sections) :
    ActionLaws state action where
  valid := (sound.reduce proper).valid _ (List.mem_append_right _ List.mem_cons_self)
  frame := by
    rintro edit rfl
    obtain same | ⟨present, next, -, -, frame⟩ := edit_spec sound (proper edit rfl)
    · rw [same]
      exact { rest := rfl, sections := rfl, touched := fun part member =>
        ⟨part, List.mem_cons_of_mem _ member, touched_refl _ part⟩ }
    · rw [next]
      exact frame
  unchanged := by
    have apart := sound.distinct
    unfold CanvasState.history at apart
    intro same
    cases action with
    | edit edit =>
      obtain unchanged | ⟨present, next, -, differs, -⟩ := edit_spec sound (proper edit rfl)
      · exact unchanged
      · rw [next] at same
        exact absurd same differs
    | undo =>
      unfold canvasReducer at same ⊢
      dsimp only at same ⊢
      split at same
      · rename_i present last
        exact absurd same ((List.isChain_append.mp apart).2.2 present last _ rfl)
      · rfl
    | redo =>
      unfold canvasReducer at same ⊢
      dsimp only at same ⊢
      split at same
      · rename_i present future ahead
        rw [ahead] at apart
        exact absurd same.symm (List.isChain_cons_cons.mp (List.isChain_append.mp apart).2.1).1
      · rfl
  undone := by
    rintro edit rfl changed
    obtain same | ⟨present, next, -⟩ := edit_spec sound (proper edit rfl)
    · exact absurd (congrArg CanvasState.present same) changed
    · rw [next]
      unfold canvasReducer
      dsimp only
      rw [pushPast_eq, List.getLast?_concat]
      exact ⟨rfl, rfl⟩

/-- Every action of a run of proper edits, of undoing and of redoing leaves a valid document,
changes no more than the section and the block it addresses, leaves the history alone when it
leaves the document equal, and is undone and redone exactly. -/
theorem canvas_editing {document : CanvasDocument} (valid : document.Valid)
    {actions : List CanvasAction} (proper : ProperRun (createCanvasState document) actions) :
    LawfulRun (createCanvasState document) actions := by
  have start : (createCanvasState document).Sound := {
    valid := List.forall_mem_singleton.mpr valid
    distinct := List.isChain_singleton _ }
  revert start proper
  generalize createCanvasState document = state
  intro proper sound
  induction actions generalizing state with
  | nil => trivial
  | cons action later inductionHypothesis =>
    exact ⟨actionLaws_of_sound sound proper.1,
      inductionHypothesis _ proper.2 (sound.reduce proper.1)⟩

/-- A manual claim that is added, taken back, brought again and removed. -/
theorem canvas_editing_claim : LawfulRun (createCanvasState formerCanvas)
    [.edit (.addManualClaim "manual-1"), .undo, .redo,
      .edit (.removeBlock "achievement" "manual-1")] :=
  canvas_editing formerCanvas_valid (by
    refine ⟨?_, nofun, nofun, ?_, trivial⟩
    · rintro _ ⟨⟩
      exact ⟨⟨rfl, by decide +kernel⟩, fun _ _ => by decide +kernel⟩
    · rintro _ ⟨⟩
      exact ⟨⟨_, List.mem_cons_of_mem _ List.mem_cons_self, rfl, .inl
          ⟨_, List.mem_cons_self, rfl⟩⟩,
        ⟨_, List.mem_cons_self, .inl (by decide +kernel)⟩, by decide +kernel⟩)

/-- A section that is shown already is shown: the document stays as it is, and the history does
not. -/
theorem visible_again :
    formerCanvas.Valid ∧
      (canvasReducer (createCanvasState formerCanvas)
        (.edit (.inSection "experience" (.setVisible true)))).present = formerCanvas ∧
      canvasReducer (createCanvasState formerCanvas)
        (.edit (.inSection "experience" (.setVisible true))) ≠ createCanvasState formerCanvas :=
  ⟨formerCanvas_valid, by decide +kernel, by decide +kernel⟩

end CareerOS
