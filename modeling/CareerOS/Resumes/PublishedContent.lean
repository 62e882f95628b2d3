/-
This file is the content a resume is published with: which canvas may be published,
the display name, contact line, summary and entries that are taken from it, and the
texts that are looked for in the rendered files.

A canvas that may be published has a visible block with a name, and the content takes
the first visible block of the identity, with or without one. Of the summary it takes
the descriptions, and both come first wherever their sections stand. So the content is
complete on the canvases the last section describes, and on no others.
-/

import CareerOS.Resumes.CanvasBuild

namespace CareerOS

/-! ### The canvas that may be published -/

/-- The sections an owner left visible. -/
def CanvasDocument.visibleSections (canvas : CanvasDocument) : List CanvasSection :=
  canvas.sections.filter CanvasSection.visible

/-- The blocks of a section an owner left visible. -/
def CanvasSection.visibleBlocks (part : CanvasSection) : List CanvasBlock :=
  part.blocks.filter CanvasBlock.visible

/-- The first visible section of a kind. -/
def CanvasDocument.visibleSection (canvas : CanvasDocument) (kind : SectionKind) :
    Option CanvasSection :=
  canvas.sections.find? fun part => part.kind = kind && part.visible

/-- The visible blocks of that section. -/
def CanvasDocument.visibleBlocksOf (canvas : CanvasDocument) (kind : SectionKind) :
    List CanvasBlock :=
  ((canvas.visibleSection kind).map CanvasSection.visibleBlocks).getD []

/-- What a visible block has to have, unless it names the owner. -/
def requireProvenance (validFactIds : List String) (block : CanvasBlock) :
    Except String Unit := do
  refuseWhen (block.factIds = [])
    ("Claim block '" ++ block.id ++ "' requires career fact provenance before publication")
  refuseWhen (block.kind = .fact ∧ Text.blank block.content.title = true)
    ("Claim block '" ++ block.id ++ "' requires a title before publication")
  refuseWhen (¬block.factIds ⊆ validFactIds)
    ("Claim block '" ++ block.id ++ "' has invalid career fact provenance")

/-- `validate_publishable_canvas`. -/
def validatePublishableCanvas (canvas : CanvasDocument) (validFactIds : List String) :
    Except String Unit := do
  let claims := canvas.visibleSections.flatMap fun part =>
    part.visibleBlocks.filter fun block => block.kind ≠ .identity
  forM claims (requireProvenance validFactIds)
  refuseWhen (¬∃ block ∈ canvas.visibleBlocksOf .identity,
      Text.blank block.content.title = false)
    "A publishable resume requires a visible identity name"
  refuseWhen (¬∃ block ∈ claims, block.kind = .fact)
    "A publishable resume requires at least one visible career fact"

/-! ### The content -/

/-- `ResumeEntry`. -/
structure ResumeEntry where
  factId : String
  title : String
  subtitle : String
  dateRange : String
  description : String
  bullets : List String
  layout : CanvasBlockLayout

/-- `ResumeSection`. -/
structure ResumeSection where
  key : SectionKind
  heading : String
  entries : List ResumeEntry
  pageBreakBefore : Bool

/-- `ResumeContent`. The summary is kept as the descriptions it joins. -/
structure ResumeContent where
  displayName : String
  headline : String
  contactLine : String
  summaries : List String
  summaryHeading : String
  sections : List ResumeSection
  style : CanvasStyle
  hasSidebar : Option Bool := none

/-- `content.summary`. -/
def ResumeContent.summary (content : ResumeContent) : String :=
  String.intercalate "\n" content.summaries

/-- An entry of a block. -/
def resumeEntry (block : CanvasBlock) : ResumeEntry where
  factId := block.factIds.headD ""
  title := block.content.title
  subtitle := block.content.subtitle
  dateRange := block.content.dateRange
  description := block.content.description
  bullets := block.content.bullets
  layout := block.layout

/-- The section of the content, when a section of the canvas has one. -/
def resumeSection (part : CanvasSection) : Option ResumeSection :=
  if part.kind = .identity ∨ part.kind = .summary ∨ part.visibleBlocks = [] then none
  else some {
    key := part.kind
    heading := part.title
    entries := part.visibleBlocks.map resumeEntry
    pageBreakBefore := part.pageBreakBefore }

/-- `_build_canvas_content`. -/
def buildCanvasContent (canvas : CanvasDocument) : ResumeContent :=
  let identityBlock := (canvas.visibleBlocksOf .identity).head?
  let identityContent := (identityBlock.map CanvasBlock.content).getD {}
  let summarySection := canvas.visibleSection .summary
  { displayName := identityContent.title
    headline := identityContent.subtitle
    contactLine := identityContent.description
    summaries := ((canvas.visibleBlocksOf .summary).map fun block =>
      block.content.description).filter (· ≠ "")
    summaryHeading := (summarySection.map CanvasSection.title).getD "PROFILE"
    sections := canvas.visibleSections.filterMap resumeSection
    style := canvas.style }

/-- `TemplateLocale`. -/
inductive TemplateLocale
  | en
  | de
  deriving DecidableEq

/-- `TemplateLayout`. -/
inductive TemplateLayout
  | ats
  | swissPhoto
  | swissOperational
  deriving DecidableEq

/-- `TemplatePreset`, with the fields the content takes from it. The fields of its
`preview_style` that a canvas has too are overwritten. -/
structure TemplatePreset where
  locale : TemplateLocale
  layout : TemplateLayout

/-- `SECTION_HEADINGS_DE` of the career kinds. -/
def CareerKind.germanTitle : CareerKind → String
  | .experience => "BERUFSERFAHRUNG"
  | .education => "AUSBILDUNG"
  | .project => "PROJEKTE"
  | .skill => "KOMPETENZEN"
  | .language => "SPRACHEN"
  | .certification => "ZERTIFIKATE"
  | .achievement => "ERFOLGE"
  | .volunteering => "ENGAGEMENT"
  | .publication => "PUBLIKATIONEN"
  | .link => "LINKS"
  | .award => "AUSZEICHNUNGEN"
  | .membership => "MITGLIEDSCHAFTEN"
  | .portfolio => "PORTFOLIO"

/-- `SECTION_HEADINGS_EN` and `SECTION_HEADINGS_DE`. -/
def TemplateLocale.heading : TemplateLocale → SectionKind → String
  | .en, .identity => "IDENTITY"
  | .en, .summary => "PROFILE"
  | .en, .career kind => kind.sectionTitle
  | .de, .identity => "PERSÖNLICHE ANGABEN"
  | .de, .summary => "KURZPROFIL"
  | .de, .career kind => kind.germanTitle

/-- A heading nobody edited, in the language of the template. -/
def TemplateLocale.translate (locale : TemplateLocale) (part : ResumeSection) : ResumeSection :=
  if part.heading = TemplateLocale.en.heading part.key ∨
      part.heading = TemplateLocale.de.heading part.key then
    { part with heading := locale.heading part.key }
  else part

/-- `build_content` on the snapshot of a canvas. -/
def buildContent (canvas : CanvasDocument) (template : Option TemplatePreset) : ResumeContent :=
  let content := buildCanvasContent canvas
  match template with
  | none => content
  | some preset =>
    { content with
      sections := content.sections.map preset.locale.translate
      summaryHeading :=
        if content.summaryHeading ∈ ["PROFILE", "KURZPROFIL"] then
          preset.locale.heading .summary
        else content.summaryHeading
      hasSidebar := some (preset.layout ≠ .ats) }

/-- The items of `text.split(" | ")`, after the letters read of the current one. -/
def contactItems (current : List Char) : List Char → List String
  | ' ' :: '|' :: ' ' :: rest => String.ofList current.reverse :: contactItems [] rest
  | letter :: rest => contactItems (letter :: current) rest
  | [] => [String.ofList current.reverse]

/-- `required_text` of `publish_draft`. -/
def ResumeContent.requiredText (content : ResumeContent) : List String :=
  content.displayName :: [content.headline].filter (· ≠ "") ++
    ((contactItems [] content.contactLine.toList).map Text.strip).filter (· ≠ "") ++
    [content.summary].filter (· ≠ "") ++
    content.sections.flatMap fun part => part.entries.flatMap fun entry =>
      [entry.title, entry.subtitle, entry.dateRange, entry.description].filter (· ≠ "") ++
        (entry.bullets.map Text.strip).filter (· ≠ "")

/-! ### What a complete content is -/

/-- The texts of a block, in the order an owner reads them. -/
def CanvasBlock.texts (block : CanvasBlock) : List String :=
  ([block.content.title, block.content.subtitle, block.content.dateRange,
    block.content.description] ++ block.content.bullets).filter (· ≠ "")

/-- The texts of the visible blocks of a section. -/
def CanvasSection.texts (part : CanvasSection) : List String :=
  part.visibleBlocks.flatMap CanvasBlock.texts

/-- Every text an owner left visible, in canvas order. -/
def CanvasDocument.texts (canvas : CanvasDocument) : List String :=
  canvas.visibleSections.flatMap CanvasSection.texts

/-- The texts of an entry. -/
def ResumeEntry.texts (entry : ResumeEntry) : List String :=
  ([entry.title, entry.subtitle, entry.dateRange, entry.description] ++ entry.bullets).filter
    (· ≠ "")

/-- The texts of a content, in the order they are rendered. -/
def ResumeContent.texts (content : ResumeContent) : List String :=
  [content.displayName, content.headline, content.contactLine].filter (· ≠ "") ++
    content.summaries ++
    content.sections.flatMap fun part => part.entries.flatMap ResumeEntry.texts

/-- A text is looked for: it stands in a required text, or each of its items is one. -/
def Verified (required : List String) (text : String) : Prop :=
  (∃ shown ∈ required, text.toList <:+: shown.toList) ∨
    ∀ item ∈ contactItems [] text.toList, Text.strip item = "" ∨ Text.strip item ∈ required

/-- A content with all of a canvas that is visible, in its order, and nothing else. -/
structure Complete (canvas : CanvasDocument) (content : ResumeContent) : Prop where
  named : content.displayName ≠ ""
  texts : content.texts = canvas.texts
  verified : ∀ text ∈ canvas.texts, Verified content.requiredText text

/-! ### When the content is complete -/

variable {canvas : CanvasDocument}

namespace CanvasDocument

/-- The texts of the visible sections of a kind. -/
def textsOf (canvas : CanvasDocument) (kind : SectionKind) : List String :=
  (canvas.visibleBlocksOf kind).flatMap CanvasBlock.texts

/-- The texts of the visible career sections. -/
def careerTexts (canvas : CanvasDocument) : List String :=
  (canvas.visibleSections.filter fun part =>
    part.kind ≠ .identity && part.kind ≠ .summary).flatMap CanvasSection.texts

/-- The canvases that are published whole: the first visible identity block has the name and
no other block of the identity has a text, what the content does not take is empty, and the
texts stay in their order when the identity and the summary are moved to the front. -/
structure PublishedWhole (canvas : CanvasDocument) : Prop where
  named : ∃ block ∈ (canvas.visibleBlocksOf .identity).head?, block.content.title ≠ ""
  identity : ∀ block ∈ (canvas.visibleBlocksOf .identity).head?,
    block.content.dateRange = "" ∧ block.content.bullets = []
  others : ∀ block ∈ (canvas.visibleBlocksOf .identity).tail, block.texts = []
  summary : ∀ block ∈ canvas.visibleBlocksOf .summary, block.content.title = "" ∧
    block.content.subtitle = "" ∧ block.content.dateRange = "" ∧ block.content.bullets = []
  order : canvas.texts = canvas.textsOf .identity ++ canvas.textsOf .summary ++ canvas.careerTexts

/-- The visible sections of a kind are at most one. -/
theorem filter_kind (distinct : canvas.kinds.Nodup) (kind : SectionKind) :
    canvas.visibleSections.filter (fun part => part.kind = kind) =
      (canvas.visibleSection kind).toList := by
  unfold visibleSections visibleSection
  unfold kinds at distinct
  rw [List.filter_filter]
  generalize canvas.sections = sections at distinct ⊢
  induction sections with
  | nil => rfl
  | cons first rest inductionHypothesis =>
    rw [List.map_cons, List.nodup_cons] at distinct
    rw [List.filter_cons, List.find?_cons]
    cases here : (decide (first.kind = kind) && first.visible) with
    | false => exact inductionHypothesis distinct.2
    | true =>
      have same := of_decide_eq_true (Bool.and_eq_true_iff.mp here).1
      have none : rest.filter (fun part => decide (part.kind = kind) && part.visible) = [] :=
        List.filter_eq_nil_iff.mpr fun part member found => distinct.1
          (same ▸ of_decide_eq_true (Bool.and_eq_true_iff.mp found).1 ▸
            List.mem_map_of_mem member)
      rw [if_pos rfl, none]
      rfl

theorem flatMap_filter_kind (distinct : canvas.kinds.Nodup) (kind : SectionKind) :
    (canvas.visibleSections.filter fun part => part.kind = kind).flatMap CanvasSection.texts =
      canvas.textsOf kind := by
  rw [filter_kind distinct kind]
  unfold textsOf visibleBlocksOf CanvasSection.texts
  cases canvas.visibleSection kind with
  | none => rfl
  | some part => exact List.append_nil _

/-- The texts of a canvas are those of the identity, the summary and the career sections, in some
order. -/
theorem texts_perm (distinct : canvas.kinds.Nodup) :
    (canvas.textsOf .identity ++ canvas.textsOf .summary ++ canvas.careerTexts).Perm
      canvas.texts := by
  unfold texts careerTexts
  rw [← flatMap_filter_kind distinct .identity, ← flatMap_filter_kind distinct .summary,
    List.append_assoc, ← List.flatMap_append, ← List.flatMap_append]
  refine List.Perm.flatMap_right _ ?_
  have split := List.filter_append_perm (fun part : CanvasSection => part.kind = .summary)
    (canvas.visibleSections.filter fun part => !decide (part.kind = .identity))
  rw [List.filter_filter, List.filter_filter] at split
  have summary : canvas.visibleSections.filter (fun part =>
      decide (part.kind = .summary) && !decide (part.kind = .identity)) =
      canvas.visibleSections.filter fun part => part.kind = .summary :=
    List.filter_congr fun part _ => by cases part.kind <;> rfl
  have career : canvas.visibleSections.filter (fun part =>
      !decide (part.kind = .summary) && !decide (part.kind = .identity)) =
      canvas.visibleSections.filter fun part =>
        part.kind ≠ .identity && part.kind ≠ .summary :=
    List.filter_congr fun part _ => by cases part.kind <;> rfl
  rw [summary, career] at split
  exact (List.Perm.append_left _ split).trans (List.filter_append_perm _ _)

end CanvasDocument

/-! ### The texts of the content -/

theorem entries_translate (locale : TemplateLocale) (part : ResumeSection) :
    (locale.translate part).entries = part.entries := by
  unfold TemplateLocale.translate
  split <;> rfl

/-- The entries of a content, section after section. -/
def ResumeContent.entries (content : ResumeContent) : List ResumeEntry :=
  content.sections.flatMap ResumeSection.entries

/-- A template changes no entry. -/
theorem entries_buildContent (canvas : CanvasDocument) (template : Option TemplatePreset) :
    (buildContent canvas template).entries = (buildCanvasContent canvas).entries := by
  cases template with
  | none => rfl
  | some preset =>
    unfold ResumeContent.entries buildContent
    simp only [List.flatMap_map, entries_translate]

/-- The entries are the visible blocks of the career sections. -/
theorem entries_buildCanvasContent (canvas : CanvasDocument) :
    (buildCanvasContent canvas).entries =
      ((canvas.visibleSections.filter fun part =>
        part.kind ≠ .identity && part.kind ≠ .summary).flatMap
          CanvasSection.visibleBlocks).map resumeEntry := by
  unfold ResumeContent.entries buildCanvasContent
  simp only
  induction canvas.visibleSections with
  | nil => rfl
  | cons part rest inductionHypothesis =>
    rw [List.filterMap_cons, List.filter_cons]
    by_cases identity : part.kind = .identity
    · rw [resumeSection, if_pos (.inl identity), identity]
      exact inductionHypothesis
    by_cases summary : part.kind = .summary
    · rw [resumeSection, if_pos (.inr (.inl summary)), summary]
      exact inductionHypothesis
    rw [if_pos (by simp [identity, summary]), List.flatMap_cons, List.map_append,
      ← inductionHypothesis]
    by_cases empty : part.visibleBlocks = []
    · rw [resumeSection, if_pos (.inr (.inr empty)), empty]
      rfl
    · rw [resumeSection, if_neg (by simp [identity, summary, empty])]
      rfl

theorem careerTexts_eq (canvas : CanvasDocument) (template : Option TemplatePreset) :
    (buildContent canvas template).entries.flatMap ResumeEntry.texts = canvas.careerTexts := by
  rw [entries_buildContent, entries_buildCanvasContent, List.flatMap_map, List.flatMap_assoc]
  rfl

/-- What the content takes of an identity block. -/
def CanvasContent.nameTexts (content : CanvasContent) : List String :=
  [content.title, content.subtitle, content.description].filter (· ≠ "")

/-- What the content takes of a summary block. -/
def CanvasBlock.summaryTexts (block : CanvasBlock) : List String :=
  [block.content.description].filter (· ≠ "")

/-- The content that names the owner. -/
def CanvasDocument.nameContent (canvas : CanvasDocument) : CanvasContent :=
  ((canvas.visibleBlocksOf .identity).head?.map CanvasBlock.content).getD {}

theorem texts_buildContent (canvas : CanvasDocument) (template : Option TemplatePreset) :
    (buildContent canvas template).texts =
      canvas.nameContent.nameTexts ++
        (canvas.visibleBlocksOf .summary).flatMap CanvasBlock.summaryTexts ++
        canvas.careerTexts := by
  have summaries (blocks : List CanvasBlock) :
      (blocks.map fun block => block.content.description).filter (· ≠ "") =
        blocks.flatMap CanvasBlock.summaryTexts := by
    induction blocks with
    | nil => rfl
    | cons block rest inductionHypothesis =>
      rw [List.map_cons, List.filter_cons, List.flatMap_cons, ← inductionHypothesis]
      unfold CanvasBlock.summaryTexts
      rw [List.filter_cons]
      split <;> rfl
  have career := careerTexts_eq canvas template
  unfold ResumeContent.entries at career
  rw [List.flatMap_assoc] at career
  unfold ResumeContent.texts
  rw [career, ← summaries]
  cases template <;> rfl

/-! ### What the content leaves out -/

theorem nameTexts_sublist (block : CanvasBlock) :
    block.content.nameTexts.Sublist block.texts :=
  List.Sublist.filter _ (((((List.nil_sublist _).cons_cons _).cons _).cons_cons _).cons_cons _)

theorem summaryTexts_sublist (block : CanvasBlock) : block.summaryTexts.Sublist block.texts :=
  List.Sublist.filter _ (((((List.nil_sublist _).cons_cons _).cons _).cons _).cons _)

/-- Nothing is lost with parts in which nothing is kept. -/
theorem filter_without_iff {Item : Type} (keep : Item → Bool)
    (first dropped second rest : List Item) :
    (first ++ second).filter keep = (first ++ dropped ++ second ++ rest).filter keep ↔
      dropped.filter keep = [] ∧ rest.filter keep = [] := by
  simp only [List.filter_append]
  constructor
  · intro same
    have lengths := congrArg List.length same
    simp only [List.length_append] at lengths
    exact ⟨List.length_eq_zero_iff.mp (by omega), List.length_eq_zero_iff.mp (by omega)⟩
  · rintro ⟨noDropped, noRest⟩
    rw [noDropped, noRest, List.append_nil, List.append_nil]

theorem filter_solid_eq_nil_iff {texts : List String} (solid : ∀ item ∈ texts, item ≠ "") :
    texts.filter (· ≠ "") = [] ↔ texts = [] := by
  rw [List.filter_eq_self.mpr fun item member => decide_eq_true (solid item member)]

variable {block : CanvasBlock}

theorem nameTexts_eq_iff (solid : ∀ item ∈ block.content.bullets, item ≠ "") :
    block.content.nameTexts = block.texts ↔
      block.content.dateRange = "" ∧ block.content.bullets = [] := by
  have without := filter_without_iff (· ≠ "") [block.content.title, block.content.subtitle]
    [block.content.dateRange] [block.content.description] block.content.bullets
  rw [filter_solid_eq_nil_iff solid, List.filter_eq_nil_iff] at without
  refine without.trans (and_congr_left fun _ => ?_)
  simp only [List.forall_mem_singleton, decide_eq_true_eq, not_not]

theorem summaryTexts_eq_iff (solid : ∀ item ∈ block.content.bullets, item ≠ "") :
    block.summaryTexts = block.texts ↔ block.content.title = "" ∧
      block.content.subtitle = "" ∧ block.content.dateRange = "" ∧ block.content.bullets = [] := by
  have without := filter_without_iff (· ≠ "") []
    [block.content.title, block.content.subtitle, block.content.dateRange]
    [block.content.description] block.content.bullets
  rw [filter_solid_eq_nil_iff solid, List.filter_eq_nil_iff] at without
  refine without.trans ?_
  simp only [List.forall_mem_cons, List.not_mem_nil, false_imp_iff, implies_true, and_true,
    decide_eq_true_eq, not_not, and_assoc]

/-- Parts that together are as long as the wholes are the wholes. -/
theorem eq_of_flatMap_length {Item Piece : Type} {part whole : Item → List Piece}
    {items : List Item} (parts : ∀ item ∈ items, (part item).Sublist (whole item))
    (long : (items.flatMap whole).length ≤ (items.flatMap part).length) :
    ∀ item ∈ items, part item = whole item := by
  induction items with
  | nil => exact fun _ none => nomatch none
  | cons first rest inductionHypothesis =>
    have head := parts first List.mem_cons_self
    have tail : ∀ item ∈ rest, (part item).Sublist (whole item) := fun item member =>
      parts item (List.mem_cons_of_mem _ member)
    have shorter := (List.Sublist.flatMap_right rest tail).length_le
    rw [List.flatMap_cons, List.flatMap_cons, List.length_append, List.length_append] at long
    have headLength := head.length_le
    intro item member
    rcases List.mem_cons.mp member with rfl | later
    · exact head.eq_of_length (by omega)
    · exact inductionHypothesis tail (by omega) item later

namespace CanvasDocument

theorem nameTexts_sublist_textsOf (canvas : CanvasDocument) :
    canvas.nameContent.nameTexts.Sublist (canvas.textsOf .identity) := by
  unfold nameContent textsOf
  cases canvas.visibleBlocksOf .identity with
  | nil => exact List.nil_sublist _
  | cons block others =>
    exact (nameTexts_sublist block).trans (List.sublist_append_left _ _)

theorem summaryTexts_sublist_textsOf (canvas : CanvasDocument) :
    ((canvas.visibleBlocksOf .summary).flatMap CanvasBlock.summaryTexts).Sublist
      (canvas.textsOf .summary) :=
  List.Sublist.flatMap_right _ fun block _ => summaryTexts_sublist block

theorem mem_visibleBlocksOf {kind : SectionKind} (member : block ∈ canvas.visibleBlocksOf kind) :
    ∃ part ∈ canvas.sections, block ∈ part.blocks := by
  unfold visibleBlocksOf at member
  cases found : canvas.visibleSection kind with
  | none =>
    rw [found] at member
    cases member
  | some part =>
    rw [found] at member
    exact ⟨part, List.mem_of_find?_eq_some found, List.mem_of_mem_filter member⟩

/-- The bullets of a valid canvas are texts without white space at their ends. -/
theorem Valid.bullets (valid : canvas.Valid) {part : CanvasSection}
    (member : part ∈ canvas.sections) (inside : block ∈ part.blocks)
    {item : String} (here : item ∈ block.content.bullets) :
    Text.strip item = item ∧ item ≠ "" := by
  obtain ⟨plain, solid, -⟩ :=
    (((valid.sections part member).blocks block inside).content .bullets).2 item here
  simp only [IsPlain, plainText, bind_ok_iff, refuseWhen_ok_iff, pure_ok_iff] at plain
  obtain ⟨-, -, stripped⟩ := plain
  refine ⟨?_, solid⟩
  rw [← stripped, Text.strip_strip]

/-- The texts of the content are no more than the texts of the canvas. -/
theorem length_texts_buildContent (distinct : canvas.kinds.Nodup) (template : Option TemplatePreset)
    (long : canvas.texts.length ≤ (buildContent canvas template).texts.length) :
    canvas.nameContent.nameTexts = canvas.textsOf .identity ∧
      ∀ block ∈ canvas.visibleBlocksOf .summary, block.summaryTexts = block.texts := by
  have name := nameTexts_sublist_textsOf canvas
  have summary := summaryTexts_sublist_textsOf canvas
  rw [← (texts_perm distinct).length_eq, texts_buildContent] at long
  simp only [List.length_append] at long
  have nameLength := name.length_le
  have summaryLength := summary.length_le
  refine ⟨name.eq_of_length (by omega), ?_⟩
  exact eq_of_flatMap_length (fun block _ => summaryTexts_sublist block)
    (by unfold textsOf at long nameLength summaryLength; omega)

theorem texts_buildContent_eq_iff (distinct : canvas.kinds.Nodup)
    (template : Option TemplatePreset) :
    (buildContent canvas template).texts = canvas.texts ↔
      canvas.nameContent.nameTexts = canvas.textsOf .identity ∧
        (∀ block ∈ canvas.visibleBlocksOf .summary, block.summaryTexts = block.texts) ∧
        canvas.texts =
          canvas.textsOf .identity ++ canvas.textsOf .summary ++ canvas.careerTexts := by
  constructor
  · intro same
    obtain ⟨name, summary⟩ := length_texts_buildContent distinct template (same ▸ le_rfl)
    refine ⟨name, summary, ?_⟩
    rw [← same, texts_buildContent, name, List.flatMap_congr summary]
    rfl
  · rintro ⟨name, summary, order⟩
    rw [texts_buildContent, name, List.flatMap_congr summary, order]
    rfl

theorem nameTexts_eq_textsOf_iff (valid : canvas.Valid) :
    canvas.nameContent.nameTexts = canvas.textsOf .identity ↔
      (∀ block ∈ (canvas.visibleBlocksOf .identity).head?,
        block.content.dateRange = "" ∧ block.content.bullets = []) ∧
      ∀ block ∈ (canvas.visibleBlocksOf .identity).tail, block.texts = [] := by
  have solid (block : CanvasBlock) (member : block ∈ canvas.visibleBlocksOf .identity) :
      ∀ item ∈ block.content.bullets, item ≠ "" := fun item here => by
    obtain ⟨part, inside, there⟩ := mem_visibleBlocksOf member
    exact (valid.bullets inside there here).2
  unfold nameContent textsOf
  cases found : canvas.visibleBlocksOf .identity with
  | nil => simp [CanvasContent.nameTexts]
  | cons block others =>
    have first := nameTexts_eq_iff (solid block (found ▸ List.mem_cons_self))
    simp only [List.head?_cons, Option.map_some, Option.getD_some, List.flatMap_cons,
      Option.mem_some_iff, forall_eq', List.tail_cons]
    rw [← first, ← List.flatMap_eq_nil_iff]
    constructor
    · intro same
      have shorter := (nameTexts_sublist block).length_le
      have lengths := congrArg List.length same
      rw [List.length_append] at lengths
      have empty := List.length_eq_zero_iff.mp (by omega : (others.flatMap CanvasBlock.texts).length = 0)
      rw [empty, List.append_nil] at same
      exact ⟨same, empty⟩
    · rintro ⟨same, empty⟩
      rw [empty, List.append_nil, same]

end CanvasDocument

/-! ### What publication looks for -/

theorem isInfix_intercalate {mark text : String} {texts : List String} (member : text ∈ texts) :
    text.toList <:+: (mark.intercalate texts).toList := by
  induction texts with
  | nil => cases member
  | cons first rest inductionHypothesis =>
    cases rest with
    | nil =>
      obtain rfl := List.mem_singleton.mp member
      simp only [String.intercalate_singleton, List.infix_rfl]
    | cons second rest =>
      rw [String.intercalate_cons_cons, String.toList_append, String.toList_append]
      rcases List.mem_cons.mp member with rfl | later
      · exact List.infix_append_of_infix_left (List.infix_append_of_infix_left List.infix_rfl)
      · exact List.infix_append_of_infix_right (inductionHypothesis later)

/-- Every text of a content is looked for. -/
theorem ResumeContent.verified {content : ResumeContent}
    (stripped : ∀ entry ∈ content.entries, ∀ item ∈ entry.bullets, Text.strip item = item)
    {text : String} (member : text ∈ content.texts) : Verified content.requiredText text := by
  have self {shown : String} (here : shown ∈ content.requiredText) :
      Verified content.requiredText shown := .inl ⟨shown, here, List.infix_rfl⟩
  unfold texts at member
  rcases List.mem_append.mp member with early | late
  · rcases List.mem_append.mp early with name | summary
    · obtain ⟨field, solid⟩ := List.mem_filter.mp name
      simp only [List.mem_cons, List.not_mem_nil, or_false] at field
      rcases field with rfl | rfl | rfl
      · exact self (by simp [requiredText])
      · exact self (by simp_all [requiredText])
      · refine .inr fun item here => ?_
        by_cases empty : Text.strip item = ""
        · exact .inl empty
        · refine .inr ?_
          simp only [requiredText, List.mem_append, List.mem_filter, List.mem_map,
            decide_eq_true_eq]
          exact .inl (.inl (.inr ⟨⟨item, here, rfl⟩, empty⟩))
    · have inside : text.toList <:+: ("\n".intercalate content.summaries).toList :=
        isInfix_intercalate summary
      by_cases empty : content.summary = ""
      · refine .inl ⟨content.displayName, by simp [requiredText], ?_⟩
        rw [show "\n".intercalate content.summaries = "" from empty] at inside
        exact inside.trans List.nil_infix
      · exact .inl ⟨content.summary, by simp [requiredText, empty], inside⟩
  · obtain ⟨part, partMember, inPart⟩ := List.mem_flatMap.mp late
    obtain ⟨entry, entryMember, inEntry⟩ := List.mem_flatMap.mp inPart
    obtain ⟨field, solid⟩ := List.mem_filter.mp inEntry
    refine self (List.mem_append_right _ (List.mem_flatMap.mpr ⟨part, partMember,
      List.mem_flatMap.mpr ⟨entry, entryMember, ?_⟩⟩))
    rcases List.mem_append.mp field with named | bullet
    · exact List.mem_append_left _ (List.mem_filter.mpr ⟨named, solid⟩)
    · have bare := stripped entry (List.mem_flatMap.mpr ⟨part, partMember, entryMember⟩) text bullet
      exact List.mem_append_right _ (List.mem_filter.mpr
        ⟨List.mem_map.mpr ⟨text, bullet, bare⟩, solid⟩)

theorem stripped_buildContent (valid : canvas.Valid) (template : Option TemplatePreset) :
    ∀ entry ∈ (buildContent canvas template).entries, ∀ item ∈ entry.bullets,
      Text.strip item = item := by
  intro entry member item here
  rw [entries_buildContent, entries_buildCanvasContent] at member
  obtain ⟨block, inside, rfl⟩ := List.mem_map.mp member
  obtain ⟨part, partMember, blockMember⟩ := List.mem_flatMap.mp inside
  have inCanvas := List.mem_of_mem_filter (List.mem_of_mem_filter partMember)
  exact (valid.bullets inCanvas (List.mem_of_mem_filter blockMember) here).1

theorem displayName_buildContent (canvas : CanvasDocument) (template : Option TemplatePreset) :
    (buildContent canvas template).displayName = canvas.nameContent.title := by
  cases template <;> rfl

/-- What is published of a canvas is complete exactly when it is one of those that are published
whole, whatever the template. -/
theorem complete_buildContent_iff {canvas : CanvasDocument} (valid : canvas.Valid)
    (template : Option TemplatePreset) :
    Complete canvas (buildContent canvas template) ↔ canvas.PublishedWhole := by
  have distinct := valid.consistent.sectionKinds
  have texts := CanvasDocument.texts_buildContent_eq_iff distinct template
  rw [CanvasDocument.nameTexts_eq_textsOf_iff valid] at texts
  have summary (block : CanvasBlock) (member : block ∈ canvas.visibleBlocksOf .summary) :
      block.summaryTexts = block.texts ↔ block.content.title = "" ∧ block.content.subtitle = "" ∧
        block.content.dateRange = "" ∧ block.content.bullets = [] :=
    summaryTexts_eq_iff fun item here => by
      obtain ⟨part, inside, there⟩ := CanvasDocument.mem_visibleBlocksOf member
      exact (valid.bullets inside there here).2
  have named : (buildContent canvas template).displayName ≠ "" ↔
      ∃ block ∈ (canvas.visibleBlocksOf .identity).head?, block.content.title ≠ "" := by
    rw [displayName_buildContent]
    unfold CanvasDocument.nameContent
    cases (canvas.visibleBlocksOf .identity).head? with
    | none => simp
    | some block => simp
  constructor
  · intro complete
    obtain ⟨⟨identity, others⟩, summaries, order⟩ := texts.mp complete.texts
    exact {
      named := named.mp complete.named
      identity
      others
      summary := fun block member => (summary block member).mp (summaries block member)
      order }
  · intro whole
    have same := texts.mpr ⟨⟨whole.identity, whole.others⟩, fun block member =>
      (summary block member).mpr (whole.summary block member), whole.order⟩
    exact {
      named := named.mpr whole.named
      texts := same
      verified := fun text member => ResumeContent.verified (stripped_buildContent valid template)
        (same ▸ member) }

section

attribute [local instance] UuidReader.hyphenated

/-- A canvas with one project and the given identity blocks. -/
def canvasNaming (blocks : List CanvasBlock) : CanvasDocument where
  sections := [
    { id := "identity", kind := .identity, title := "IDENTITY", blocks },
    { id := "project"
      kind := .career .project
      title := "PROJECTS"
      blocks := [{
        id := "fact-6ba7b810-9dad-11d1-80b4-00c04fd430c8"
        kind := .fact
        factIds := ["6ba7b810-9dad-11d1-80b4-00c04fd430c8"]
        content := { title := "Engine" } }] }]

/-- The block of a name. -/
def namingBlock (id name : String) : CanvasBlock where
  id := id
  kind := .identity
  content := { title := name }

theorem complete_buildContent_named :
    Complete (canvasNaming [namingBlock "name" "Ada"])
        (buildContent (canvasNaming [namingBlock "name" "Ada"]) (some ⟨.de, .swissPhoto⟩)) ↔
      (canvasNaming [namingBlock "name" "Ada"]).PublishedWhole :=
  complete_buildContent_iff (CanvasDocument.read_valid
    (show (canvasNaming [namingBlock "name" "Ada"]).read = .ok _ by decide +kernel)) _

/-- The name stands in the second block of the identity, and the first is the one published. -/
theorem published_without_name :
    (canvasNaming [namingBlock "photo" "", namingBlock "name" "Ada"]).Valid ∧
      validatePublishableCanvas (canvasNaming [namingBlock "photo" "", namingBlock "name" "Ada"])
        ["6ba7b810-9dad-11d1-80b4-00c04fd430c8"] = .ok ⟨⟩ ∧
      ¬Complete (canvasNaming [namingBlock "photo" "", namingBlock "name" "Ada"])
        (buildContent (canvasNaming [namingBlock "photo" "", namingBlock "name" "Ada"])
          (some ⟨.en, .ats⟩)) := by
  refine ⟨CanvasDocument.read_valid (show (canvasNaming
    [namingBlock "photo" "", namingBlock "name" "Ada"]).read = .ok _ by decide +kernel),
    by decide +kernel, fun complete => complete.named ?_⟩
  decide +kernel

end

end CareerOS
