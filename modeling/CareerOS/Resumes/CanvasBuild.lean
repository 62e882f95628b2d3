/-
This file is how a whole canvas is read and how one is generated from a profile
and its career facts. A generated canvas has one identity block, one summary block
when there is a summary, and a block of its own for every fact.

The content `fact_content` makes of a fact and the line `_profile_contact` makes of
a profile are given. An override is a content with the fields it sets.
-/

import CareerOS.Resumes.Canvas

namespace CareerOS

/-! ### Reading a section -/

/-- `fact_type`, as it names a section. -/
def CareerKind.name : CareerKind → String
  | .experience => "experience"
  | .education => "education"
  | .project => "project"
  | .skill => "skill"
  | .language => "language"
  | .certification => "certification"
  | .achievement => "achievement"
  | .volunteering => "volunteering"
  | .publication => "publication"
  | .link => "link"
  | .award => "award"
  | .membership => "membership"
  | .portfolio => "portfolio"

/-- `SECTION_TITLES`. -/
def CareerKind.sectionTitle : CareerKind → String
  | .experience => "EXPERIENCE"
  | .education => "EDUCATION"
  | .project => "PROJECTS"
  | .skill => "SKILLS"
  | .language => "LANGUAGES"
  | .certification => "CERTIFICATIONS"
  | .achievement => "ACHIEVEMENTS"
  | .volunteering => "VOLUNTEERING"
  | .publication => "PUBLICATIONS"
  | .link => "LINKS"
  | .award => "AWARDS"
  | .membership => "MEMBERSHIPS"
  | .portfolio => "PORTFOLIO"

namespace SectionKind

/-- The kind of the blocks of a section. -/
def blockKind : SectionKind → BlockKind
  | .identity => .identity
  | .summary => .summary
  | .career _ => .fact

/-- The refusal of a block of another kind. -/
def blockRule : SectionKind → String
  | .identity => "identity sections can only contain identity blocks"
  | .summary => "summary sections can only contain summary blocks"
  | .career _ => "career sections can only contain fact blocks"

/-- All section kinds. -/
def all : List SectionKind :=
  [.identity, .summary] ++ [CareerKind.experience, .education, .project, .skill, .language,
    .certification, .achievement, .volunteering, .publication, .link, .award, .membership,
    .portfolio].map .career

theorem mem_all (kind : SectionKind) : kind ∈ all := by
  cases kind with
  | identity => decide
  | summary => decide
  | career kind => cases kind <;> decide

/-- There are fifteen kinds. -/
theorem length_le_of_nodup {kinds : List SectionKind} (distinct : kinds.Nodup) :
    kinds.length ≤ 15 :=
  (distinct.subperm fun kind _ => mem_all kind).length_le

end SectionKind

variable {part outcome : CanvasSection} {part : CanvasSection}

namespace CanvasSection

/-- `CanvasSection(...)`: the blocks are read already. -/
def make (part : CanvasSection) : Except String CanvasSection := do
  refuseWhen (isIdText part.id = false) "String should match pattern"
  refuseWhen (part.title = "") "String should have at least 1 character"
  let title ← readText 120 part.title
  refuseWhen (300 < part.blocks.length) "List should have at most 300 items"
  return { part with title }

/-- `CanvasSection.model_validate`. -/
def read [UuidReader] (part : CanvasSection) : Except String CanvasSection := do
  let blocks ← part.blocks.mapM CanvasBlock.read
  make { part with blocks }

/-- A section the validators return. -/
structure Valid (part : CanvasSection) : Prop where
  id : isIdText part.id = true
  title : IsPlain part.title ∧ part.title.length ≤ 120
  fewBlocks : part.blocks.length ≤ 300
  blocks : ∀ block ∈ part.blocks, block.Valid

theorem make_valid (accepted : part.make = .ok outcome)
    (blocks : ∀ block ∈ part.blocks, block.Valid) : outcome.Valid := by
  simp only [make, bind_ok_iff, refuseWhen_ok_iff, pure_ok_iff, not_lt, Bool.not_eq_false]
    at accepted
  obtain ⟨-, id, -, -, title, read, -, fewBlocks, rfl⟩ := accepted
  exact { id, fewBlocks, blocks, title := readText_valid read }

/-- A section with a valid head is made as it is, when it has a title and few blocks. -/
theorem make_ok_iff (id : isIdText part.id = true)
    (title : IsPlain part.title ∧ part.title.length ≤ 120) :
    part.make = .ok outcome ↔
      part.title ≠ "" ∧ part.blocks.length ≤ 300 ∧ part = outcome := by
  simp only [make, bind_ok_iff, refuseWhen_ok_iff, pure_ok_iff, not_lt, Bool.not_eq_false,
    readText_self title]
  constructor
  · rintro ⟨-, -, -, solid, _, same, -, few, rfl⟩
    obtain rfl := Except.ok.inj same
    exact ⟨solid, few, rfl⟩
  · rintro ⟨solid, few, rfl⟩
    exact ⟨⟨⟩, id, ⟨⟩, solid, _, rfl, ⟨⟩, few, rfl⟩

theorem read_valid [UuidReader] (accepted : part.read = .ok outcome) : outcome.Valid := by
  simp only [read, bind_ok_iff] at accepted
  obtain ⟨blocks, mapped, made⟩ := accepted
  refine make_valid made fun block member => ?_
  obtain ⟨raw, -, read⟩ := (mem_of_mapM_ok mapped).mp member
  exact CanvasBlock.read_valid read

theorem read_self [UuidReader] (valid : part.Valid)
    (solid : part.title ≠ "") : part.read = .ok part := by
  simp only [read, bind_ok_iff]
  refine ⟨part.blocks, mapM_self fun block member => CanvasBlock.read_self (valid.blocks block
    member), ?_⟩
  exact (make_ok_iff valid.id valid.title).mpr ⟨solid, valid.fewBlocks, rfl⟩

end CanvasSection

/-! ### Reading a document -/

/-- The bounds of `CanvasStyle`. -/
def CanvasStyle.Fits (style : CanvasStyle) : Prop :=
  style.fontFamily ∈ ["Helvetica", "Arial", "Georgia"] ∧
    (9 ≤ style.baseFontSize ∧ style.baseFontSize ≤ 12) ∧
    (1 ≤ style.lineHeight ∧ style.lineHeight ≤ mkRat 16 10) ∧
    (4 ≤ style.sectionSpacing ∧ style.sectionSpacing ≤ 24) ∧
    (10 ≤ style.marginMm ∧ style.marginMm ≤ 30) ∧
    (style.accentColor.length = 7 ∧ style.accentColor.toList.head? = some '#' ∧
      style.accentColor.toList.tail.all "0123456789abcdefABCDEF".toList.contains = true) ∧
    style.columns ∈ [1, 2]

instance (style : CanvasStyle) : Decidable style.Fits := inferInstanceAs (Decidable (_ ∧ _))

namespace CanvasDocument

def kinds (document : CanvasDocument) : List SectionKind :=
  document.sections.map CanvasSection.kind

/-- `ResumeCanvasDocument(...)`: the sections and the style are read already. -/
def make (sections : List CanvasSection) (style : CanvasStyle) : Except String CanvasDocument := do
  refuseWhen (sections = []) "List should have at least 1 item"
  refuseWhen (20 < sections.length) "List should have at most 20 items"
  refuseWhen (¬(sections.map CanvasSection.id).Nodup) "canvas section ids must be unique"
  refuseWhen (¬(sections.map CanvasSection.kind).Nodup) "canvas section kinds must be unique"
  let blocks := sections.flatMap CanvasSection.blocks
  refuseWhen (¬(blocks.map CanvasBlock.id).Nodup) "canvas block ids must be unique"
  refuseWhen (300 < blocks.length) "canvas cannot contain more than 300 blocks"
  forM sections fun part =>
    refuseWhen (∃ block ∈ part.blocks, block.kind ≠ part.kind.blockKind) part.kind.blockRule
  return { sections, style }

/-- `ResumeCanvasDocument.model_validate`. -/
def read [UuidReader] (raw : CanvasDocument) : Except String CanvasDocument := do
  refuseWhen (raw.schemaVersion ∉ [1, 2]) "Input should be 1 or 2"
  let sections ← raw.sections.mapM CanvasSection.read
  refuseWhen (¬raw.style.Fits) "Input should be within the bounds of the style"
  make sections raw.style

/-- What `validate_document` checks. -/
structure Consistent (sections : List CanvasSection) : Prop where
  some : sections ≠ []
  sectionIds : (sections.map CanvasSection.id).Nodup
  sectionKinds : (sections.map CanvasSection.kind).Nodup
  blockIds : ((sections.flatMap CanvasSection.blocks).map CanvasBlock.id).Nodup
  fewBlocks : (sections.flatMap CanvasSection.blocks).length ≤ 300
  allowed : ∀ part ∈ sections, ∀ block ∈ part.blocks, block.kind = part.kind.blockKind

/-- A document the validators return. -/
structure Valid (document : CanvasDocument) : Prop where
  version : document.schemaVersion = 2
  style : document.style.Fits
  sections : ∀ part ∈ document.sections, part.Valid
  consistent : Consistent document.sections

theorem make_ok_iff {sections : List CanvasSection} {style : CanvasStyle}
    {outcome : CanvasDocument} : make sections style = .ok outcome ↔
      Consistent sections ∧ outcome = { sections, style } := by
  have checked (part : CanvasSection) :
      refuseWhen (∃ block ∈ part.blocks, block.kind ≠ part.kind.blockKind) part.kind.blockRule =
        .ok ⟨⟩ ↔ ∀ block ∈ part.blocks, block.kind = part.kind.blockKind := by
    rw [refuseWhen_ok_iff]
    simp only [not_exists, not_and, ne_eq, not_not]
  simp only [make, bind_ok_iff, refuseWhen_ok_iff, pure_ok_iff, not_lt, not_not]
  constructor
  · rintro ⟨-, some, -, -, -, sectionIds, -, sectionKinds, -, blockIds, -, fewBlocks, ⟨⟩, allowed,
      rfl⟩
    refine ⟨{ some, sectionIds, sectionKinds, blockIds, fewBlocks, allowed := ?_ }, rfl⟩
    exact fun part member => (checked part).mp ((forM_ok_iff sections).mp allowed part member)
  · rintro ⟨consistent, rfl⟩
    have few := SectionKind.length_le_of_nodup consistent.sectionKinds
    rw [List.length_map] at few
    refine ⟨⟨⟩, consistent.some, ⟨⟩, few.trans (by decide), ⟨⟩, consistent.sectionIds, ⟨⟩,
      consistent.sectionKinds, ⟨⟩, consistent.blockIds, ⟨⟩, consistent.fewBlocks, ⟨⟩, ?_, rfl⟩
    exact (forM_ok_iff sections).mpr fun part member =>
      (checked part).mpr (consistent.allowed part member)

/-- What is read is valid. -/
theorem read_valid [UuidReader] {raw document : CanvasDocument}
    (accepted : raw.read = .ok document) : document.Valid := by
  simp only [read, bind_ok_iff, refuseWhen_ok_iff, not_not] at accepted
  obtain ⟨-, -, sections, mapped, -, style, made⟩ := accepted
  obtain ⟨consistent, rfl⟩ := make_ok_iff.mp made
  refine { version := rfl, style, consistent, sections := fun part member => ?_ }
  obtain ⟨rawPart, -, read⟩ := (mem_of_mapM_ok mapped).mp member
  exact CanvasSection.read_valid read

/-- A valid document without blank titles reads as itself. -/
theorem read_self [UuidReader] {document : CanvasDocument} (valid : document.Valid)
    (solid : ∀ part ∈ document.sections, part.title ≠ "") : document.read = .ok document := by
  simp only [read, bind_ok_iff, refuseWhen_ok_iff, not_not]
  have known : document.schemaVersion ∈ [1, 2] := by
    rw [valid.version]
    decide
  refine ⟨⟨⟩, known, document.sections, mapM_self fun part member => CanvasSection.read_self
    (valid.sections part member) (solid part member), ⟨⟩, valid.style, ?_⟩
  refine make_ok_iff.mpr ⟨valid.consistent, ?_⟩
  have version := valid.version
  cases document
  simp_all

end CanvasDocument

/-! ### The generated canvas -/

/-- A career fact, with `fact_content` of it. A reference has no kind here. -/
structure ResumeFact where
  id : String
  kind : Option CareerKind
  content : CanvasContent

/-- A profile, with `_profile_contact` of it. -/
structure ResumeProfile where
  displayName : String
  headline : String
  contact : String
  summary : String

/-- What an owner wrote over the content of a fact: the fields, in the order of the dictionary,
and their values. -/
structure ContentOverride where
  fields : List ManualField := []
  values : CanvasContent := {}

/-- What `build_canvas` is called with. -/
structure CanvasSources where
  profile : ResumeProfile
  facts : List ResumeFact
  order : List CareerKind
  includeSummary : Bool := true
  overrides : Dict String ContentOverride := []

section

variable [UuidReader]

def identitySection (profile : ResumeProfile) : Except String CanvasSection := do
  let block ← CanvasBlock.read {
    id := "identity-main"
    kind := .identity
    content := {
      title := profile.displayName
      subtitle := profile.headline
      description := profile.contact } }
  CanvasSection.make
    { id := "identity", kind := .identity, title := "IDENTITY", blocks := [block] }

def summarySection (sources : CanvasSources) : Except String (Option CanvasSection) := do
  let selectedIds := sources.facts.map ResumeFact.id
  if sources.includeSummary ∧ sources.profile.summary ≠ "" ∧ selectedIds ≠ [] then
    let block ← CanvasBlock.read {
      id := "summary-main"
      kind := .summary
      factIds := selectedIds.take 100
      content := { description := sources.profile.summary } }
    let part ← CanvasSection.make
      { id := "summary", kind := .summary, title := "PROFILE", blocks := [block] }
    return some part
  else return none

/-- The block of a fact. The block reads the content with the overrides in it. -/
def factBlock (overrides : Dict String ContentOverride) (fact : ResumeFact) :
    Except String CanvasBlock := do
  let content ← fact.content.read
  let override := (Dict.lookup fact.id overrides).getD {}
  CanvasBlock.read {
    id := "fact-" ++ fact.id
    kind := .fact
    factIds := [fact.id]
    content := content.overlay override.fields override.values
    manualFields := override.fields }

def careerSection (sources : CanvasSources) (kind : CareerKind) :
    Except String (Option CanvasSection) := do
  let facts := sources.facts.filter fun fact => fact.kind = some kind
  let blocks ← facts.mapM (factBlock sources.overrides)
  if blocks = [] then return none
  else
    let part ← CanvasSection.make
      { id := kind.name, kind := .career kind, title := kind.sectionTitle, blocks }
    return some part

/-- `build_canvas`. -/
def buildCanvas (sources : CanvasSources) : Except String CanvasDocument := do
  let identity ← identitySection sources.profile
  let summary ← summarySection sources
  let careers ← sources.order.mapM (careerSection sources)
  CanvasDocument.make (identity :: summary.toList ++ careers.reduceOption) {}

end

/-- The shape of a generated section: a titled section whose one block has no facts or the facts
of all, or a career section with a fact for every block. -/
structure CanvasSection.Generated (part : CanvasSection) : Prop where
  valid : part.Valid
  titled : part.title ≠ ""
  grounded : part.kind ≠ .identity → ∀ block ∈ part.blocks, block.factIds ≠ []
  shape : match part.kind with
    | .career _ => part.blocks ≠ [] ∧ ∀ block ∈ part.blocks, ∃ fact, block.factIds = [fact]
    | _ => ∃ block, part.blocks = [block]

/-- A canvas as `build_canvas` returns it. -/
structure CanvasDocument.Generated (document : CanvasDocument) : Prop where
  valid : document.Valid
  sections : ∀ part ∈ document.sections, part.Generated

theorem plainText_sectionTitle (kind : CareerKind) :
    plainText kind.sectionTitle = .ok kind.sectionTitle := by
  cases kind <;> rfl

theorem CanvasSection.generated_of_make
    (accepted : part.make = .ok outcome) (title : plainText part.title = .ok part.title)
    (blocks : ∀ block ∈ part.blocks, block.Valid)
    (grounded : part.kind ≠ .identity → ∀ block ∈ part.blocks, block.factIds ≠ [])
    (shape : match part.kind with
      | .career _ => part.blocks ≠ [] ∧ ∀ block ∈ part.blocks, ∃ fact, block.factIds = [fact]
      | _ => ∃ block, part.blocks = [block]) : outcome.Generated := by
  have valid := make_valid accepted blocks
  simp only [make, bind_ok_iff, refuseWhen_ok_iff, pure_ok_iff, readText] at accepted
  obtain ⟨-, -, -, titled, read, ⟨-, -, plain⟩, -, -, rfl⟩ := accepted
  rw [title] at plain
  obtain rfl := Except.ok.inj plain
  exact { valid, titled, grounded, shape }

section

variable [UuidReader]

theorem CanvasBlock.read_kept {block outcome : CanvasBlock} (accepted : block.read = .ok outcome) :
    outcome.id = block.id ∧ outcome.kind = block.kind ∧
      block.factIds.length = outcome.factIds.length := by
  simp only [read, readFactIds, bind_ok_iff, refuseWhen_ok_iff, pure_ok_iff] at accepted
  obtain ⟨-, -, _, ⟨-, -, _, mapped, -, -, rfl⟩, _, -, -, -, -, -, -, -, -, -, rfl⟩ := accepted
  exact ⟨rfl, rfl, (mapM_ok_iff_forall₂.mp mapped).length_eq⟩

/-- A block of one fact, as it is read. -/
theorem factIds_factBlock {overrides : Dict String ContentOverride} {fact : ResumeFact}
    {block : CanvasBlock} (built : factBlock overrides fact = .ok block) :
    block.Valid ∧ ∃ id, block.factIds = [id] := by
  simp only [factBlock, bind_ok_iff] at built
  obtain ⟨content, -, read⟩ := built
  have one := (CanvasBlock.read_kept read).2.2.symm
  exact ⟨CanvasBlock.read_valid read, List.length_eq_one_iff.mp one⟩

theorem generated_identitySection {profile : ResumeProfile}
    (built : identitySection profile = .ok part) : part.Generated := by
  simp only [identitySection, bind_ok_iff] at built
  obtain ⟨block, read, made⟩ := built
  have title : plainText "IDENTITY" = .ok "IDENTITY" := rfl
  refine CanvasSection.generated_of_make made title ?_ (fun other => absurd rfl other) ⟨block, rfl⟩
  exact List.forall_mem_singleton.mpr (CanvasBlock.read_valid read)

variable {sources : CanvasSources}

theorem generated_summarySection
    (built : summarySection sources = .ok (some part)) : part.Generated := by
  unfold summarySection at built
  simp only at built
  split at built
  · next included =>
    simp only [bind_ok_iff, pure_ok_iff, Option.some.injEq] at built
    obtain ⟨block, read, _, made, rfl⟩ := built
    have title : plainText "PROFILE" = .ok "PROFILE" := rfl
    have facts : block.factIds ≠ [] := by
      have kept := (CanvasBlock.read_kept read).2.2
      have some := List.length_pos_iff.mpr included.2.2
      rw [List.length_take] at kept
      exact List.length_pos_iff.mp (by omega)
    refine CanvasSection.generated_of_make made title ?_
      (fun _ => List.forall_mem_singleton.mpr facts) ⟨block, rfl⟩
    exact List.forall_mem_singleton.mpr (CanvasBlock.read_valid read)
  · cases built

theorem generated_careerSection {kind : CareerKind}
    (built : careerSection sources kind = .ok (some part)) :
    part.Generated := by
  simp only [careerSection, bind_ok_iff] at built
  obtain ⟨blocks, mapped, built⟩ := built
  have each : ∀ block ∈ blocks, block.Valid ∧ ∃ id, block.factIds = [id] := by
    intro block member
    obtain ⟨fact, -, made⟩ := (mem_of_mapM_ok mapped).mp member
    exact factIds_factBlock made
  split at built
  · cases built
  · next some =>
    simp only [bind_ok_iff, pure_ok_iff, Option.some.injEq] at built
    obtain ⟨_, made, rfl⟩ := built
    refine CanvasSection.generated_of_make made (plainText_sectionTitle kind)
      (fun block member => (each block member).1) (fun _ block member => ?_)
      ⟨some, fun block member => (each block member).2⟩
    obtain ⟨id, only⟩ := (each block member).2
    exact only ▸ List.cons_ne_nil _ _

/-- Every canvas that is built has the shape of a generated one. -/
theorem generated_buildCanvas {document : CanvasDocument}
    (built : buildCanvas sources = .ok document) : document.Generated := by
  simp only [buildCanvas, bind_ok_iff] at built
  obtain ⟨identity, first, summary, second, careers, third, made⟩ := built
  obtain ⟨consistent, rfl⟩ := CanvasDocument.make_ok_iff.mp made
  have sections : ∀ part ∈ identity :: summary.toList ++ careers.reduceOption,
      part.Generated := by
    intro part member
    rcases List.mem_append.mp member with early | career
    · rcases List.mem_cons.mp early with rfl | inSummary
      · exact generated_identitySection first
      · obtain rfl := Option.mem_toList.mp inSummary
        exact generated_summarySection second
    · have inCareers := List.reduceOption_mem_iff.mp career
      obtain ⟨kind, -, made⟩ := (mem_of_mapM_ok third).mp inCareers
      exact generated_careerSection made
  have style : ({} : CanvasStyle).Fits := by decide +kernel
  exact { sections, valid := { version := rfl, style, consistent
                               sections := fun part member => (sections part member).valid } }

end

end CareerOS
