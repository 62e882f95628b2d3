/-
This file is the canvas of a resume: sections of blocks, each block with its
content, the career facts it rests on and the fields its owner wrote by hand. A
canvas is read through validators that normalise its texts on the way, so a valid
part is one the validators return, and read again it comes back as it is. The one
exception is a section title of white space only, which is empty once it is read.

How `uuid.UUID` reads an identifier is a parameter.
-/

import CareerOS.Library.Outcome
import CareerOS.Library.Pydantic
import CareerOS.Library.Text

namespace CareerOS

/-- `uuid.UUID` on a text. -/
class UuidReader where
  /-- `str(UUID(text))`, or nothing on a `ValueError`. -/
  uuid : String → Option String
  uuid_of_canonical : ∀ text, canonicalUuid text = true → uuid text = some text
  canonical_uuid : ∀ text id, uuid text = some id → canonicalUuid id = true

theorem map_toLower_of_canonical {text : String} (canonical : canonicalUuid text = true) :
    text.toList.map Char.toLower = text.toList := by
  unfold canonicalUuid at canonical
  obtain ⟨-, letters⟩ := Bool.and_eq_true_iff.mp canonical
  refine (List.map_congr_left fun letter member => ?_).trans (List.map_id _)
  obtain ⟨index, bound, rfl⟩ := List.getElem_of_mem member
  have here := List.all_eq_true.mp letters (text.toList[index], index)
    (List.mem_zipIdx_iff_getElem?.mpr (List.getElem?_eq_getElem bound))
  have small : ¬(text.toList[index].val ≥ 'A'.val ∧ text.toList[index].val ≤ 'Z'.val) := by
    intro upper
    have low : 65 ≤ text.toList[index].toNat := upper.1
    have high : text.toList[index].toNat ≤ 90 := upper.2
    simp only at here
    split at here
    · rw [eq_of_beq here] at low
      revert low
      decide
    · simp only [Bool.or_eq_true, Bool.and_eq_true, decide_eq_true_eq] at here
      omega
  exact dif_neg small

/-- A reader that knows the canonical identifiers in either case of letters. -/
@[reducible] def UuidReader.hyphenated : UuidReader where
  uuid := fun text =>
    let lower := String.ofList (text.toList.map Char.toLower)
    if canonicalUuid lower then some lower else none
  uuid_of_canonical := fun text canonical => by
    simp only [map_toLower_of_canonical canonical, String.ofList_toList, if_pos canonical]
  canonical_uuid := fun text id read => by
    simp only at read
    split at read
    · next canonical =>
      obtain rfl := Option.some.inj read
      exact canonical
    · cases read

/-! ### The parts of a canvas -/

/-- The kinds of career facts a resume can hold: `FactType` without `"reference"`. -/
inductive CareerKind
  | experience
  | education
  | project
  | skill
  | language
  | certification
  | achievement
  | volunteering
  | publication
  | link
  | award
  | membership
  | portfolio
  deriving DecidableEq

/-- `CanvasSectionKind`. -/
inductive SectionKind
  | identity
  | summary
  | career (kind : CareerKind)
  deriving DecidableEq

/-- `CanvasBlockKind`. -/
inductive BlockKind
  | identity
  | summary
  | fact
  deriving DecidableEq

/-- `ManualField`. -/
inductive ManualField
  | title
  | subtitle
  | dateRange
  | description
  | bullets
  deriving DecidableEq

/-- `CanvasContent`. -/
structure CanvasContent where
  title : String := ""
  subtitle : String := ""
  dateRange : String := ""
  description : String := ""
  bullets : List String := []
  deriving DecidableEq

/-- `CanvasBlockLayout`. -/
structure CanvasBlockLayout where
  spacingBeforePt : Rat := 0
  keepTogether : Bool := true
  deriving DecidableEq

/-- `CanvasBlock`. -/
structure CanvasBlock where
  id : String
  kind : BlockKind
  factIds : List String := []
  visible : Bool := true
  content : CanvasContent := {}
  manualFields : List ManualField := []
  layout : CanvasBlockLayout := {}
  deriving DecidableEq

/-- `CanvasSection`. -/
structure CanvasSection where
  id : String
  kind : SectionKind
  title : String
  visible : Bool := true
  pageBreakBefore : Bool := false
  blocks : List CanvasBlock := []
  deriving DecidableEq

/-- `CanvasStyle`. -/
structure CanvasStyle where
  fontFamily : String := "Helvetica"
  baseFontSize : Rat := 10
  lineHeight : Rat := mkRat 13 10
  sectionSpacing : Rat := 10
  marginMm : Rat := 18
  accentColor : String := "#243B53"
  columns : Nat := 1
  deriving DecidableEq

/-- `ResumeCanvasDocument`. -/
structure CanvasDocument where
  schemaVersion : Nat := 2
  sections : List CanvasSection
  style : CanvasStyle := {}
  deriving DecidableEq

/-! ### The fields of a content -/

namespace CanvasContent

/-- `getattr(content, field)`, a text as the list of itself. -/
def value (content : CanvasContent) : ManualField → List String
  | .title => [content.title]
  | .subtitle => [content.subtitle]
  | .dateRange => [content.dateRange]
  | .description => [content.description]
  | .bullets => content.bullets

/-- `data[field] = values[field]`. -/
def withField (content values : CanvasContent) : ManualField → CanvasContent
  | .title => { content with title := values.title }
  | .subtitle => { content with subtitle := values.subtitle }
  | .dateRange => { content with dateRange := values.dateRange }
  | .description => { content with description := values.description }
  | .bullets => { content with bullets := values.bullets }

/-- The content with some of its fields taken from other values. -/
def overlay (content : CanvasContent) (fields : List ManualField) (values : CanvasContent) :
    CanvasContent :=
  fields.foldl (fun content field => content.withField values field) content

theorem value_withField (content values : CanvasContent) (field other : ManualField) :
    (content.withField values field).value other =
      if other = field then values.value other else content.value other := by
  cases field <;> cases other <;> rfl

theorem value_overlay (content : CanvasContent) (fields : List ManualField)
    (values : CanvasContent) (field : ManualField) :
    (content.overlay fields values).value field =
      if field ∈ fields then values.value field else content.value field := by
  unfold overlay
  induction fields generalizing content with
  | nil => rfl
  | cons first rest inductionHypothesis =>
    rw [List.foldl_cons, inductionHypothesis, value_withField]
    by_cases later : field ∈ rest
    · rw [if_pos later, if_pos (List.mem_cons_of_mem _ later)]
    · rw [if_neg later]
      by_cases here : field = first
      · rw [if_pos here, if_pos (here ▸ List.mem_cons_self)]
      · rw [if_neg here, if_neg fun inside => (List.mem_cons.mp inside).elim here later]

/-- A content is its fields. -/
theorem ext_value {first second : CanvasContent}
    (same : ∀ field, first.value field = second.value field) : first = second := by
  have title := List.singleton_inj.mp (same .title)
  have subtitle := List.singleton_inj.mp (same .subtitle)
  have dateRange := List.singleton_inj.mp (same .dateRange)
  have description := List.singleton_inj.mp (same .description)
  have bullets : first.bullets = second.bullets := same .bullets
  cases first
  cases second
  simp_all

end CanvasContent

/-! ### Reading a text -/

/-- `value.replace("\r\n", "\n").replace("\r", "\n")`. -/
def lineEnds : List Char → List Char
  | [] => []
  | '\r' :: '\n' :: rest => '\n' :: lineEnds rest
  | '\r' :: rest => '\n' :: lineEnds rest
  | letter :: rest => letter :: lineEnds rest

/-- `ord(char) < 32 and char not in {"\n", "\t"}`. -/
def unsupportedControl (letter : Char) : Bool :=
  letter.toNat < 32 && letter != '\n' && letter != '\t'

/-- `_plain_text`. -/
def plainText (value : String) : Except String String := do
  let normalized := lineEnds value.toList
  refuseWhen (normalized.any unsupportedControl) "text contains unsupported control characters"
  return Text.strip (String.ofList normalized)

/-- A text that reads as itself. -/
def IsPlain (text : String) : Prop := plainText text = .ok text

theorem lineEnds_of_not_mem {letters : List Char} (none : '\r' ∉ letters) :
    lineEnds letters = letters := by
  induction letters using lineEnds.induct with
  | case1 => rfl
  | case2 rest inductionHypothesis => exact absurd List.mem_cons_self none
  | case3 rest other inductionHypothesis => exact absurd List.mem_cons_self none
  | case4 letter rest first second inductionHypothesis =>
    rw [lineEnds, inductionHypothesis fun inside => none (List.mem_cons_of_mem _ inside)]
    · exact fun tail same => first tail same
    · exact second

theorem length_lineEnds_le (letters : List Char) :
    (lineEnds letters).length ≤ letters.length := by
  induction letters using lineEnds.induct with
  | case1 => exact le_rfl
  | case2 rest inductionHypothesis =>
    rw [lineEnds]
    simp only [List.length_cons]
    omega
  | case3 rest other inductionHypothesis =>
    rw [lineEnds]
    · exact Nat.succ_le_succ inductionHypothesis
    · exact other
  | case4 letter rest first second inductionHypothesis =>
    rw [lineEnds]
    · exact Nat.succ_le_succ inductionHypothesis
    · exact fun tail same => first tail same
    · exact second

theorem mem_stripList {letters : List Char} {letter : Char}
    (inside : letter ∈ Text.stripList letters) : letter ∈ letters :=
  (List.dropWhile_suffix _).subset ((List.rdropWhile_prefix _ _).subset inside)

/-- What is read is a plain text, and no longer than what was given. -/
theorem isPlain_of_plainText {value text : String} (read : plainText value = .ok text) :
    IsPlain text ∧ text.length ≤ value.length := by
  simp only [plainText, bind_ok_iff, refuseWhen_ok_iff, pure_ok_iff] at read
  obtain ⟨-, supported, rfl⟩ := read
  have letters : (Text.strip (String.ofList (lineEnds value.toList))).toList =
      Text.stripList (lineEnds value.toList) := by
    rw [Text.toList_strip, String.toList_ofList]
  have inside : ∀ letter ∈ Text.stripList (lineEnds value.toList),
      unsupportedControl letter = false := fun letter member => by
    by_contra refused
    exact supported (List.any_eq_true.mpr
      ⟨letter, mem_stripList member, Bool.eq_true_of_not_eq_false refused⟩)
  have noReturn : '\r' ∉ Text.stripList (lineEnds value.toList) := fun member => by
    have := inside '\r' member
    revert this
    decide
  constructor
  · simp only [IsPlain, plainText, bind_ok_iff, refuseWhen_ok_iff, pure_ok_iff]
    rw [letters, lineEnds_of_not_mem noReturn]
    refine ⟨⟨⟩, fun refused => ?_, ?_⟩
    · obtain ⟨letter, member, control⟩ := List.any_eq_true.mp refused
      rw [inside letter member] at control
      cases control
    · rw [← letters, String.ofList_toList, Text.strip_strip]
  · refine (Text.length_strip_le _).trans ?_
    rw [String.length_ofList, ← String.length_toList]
    exact length_lineEnds_le _

/-! ### Reading a content -/

/-- A text with its `max_length`. -/
def readText (limit : Nat) (value : String) : Except String String := do
  refuseWhen (limit < value.length) s!"String should have at most {limit} characters"
  plainText value

/-- `validate_bullets`. -/
def readBullets (values : List String) : Except String (List String) := do
  refuseWhen (50 < values.length) "List should have at most 50 items"
  let normalized ← values.mapM plainText
  refuseWhen ("" ∈ normalized) "bullets cannot be empty"
  refuseWhen (∃ item ∈ normalized, 1000 < item.length) "bullets cannot exceed 1000 characters"
  return normalized

namespace CanvasContent

/-- `CanvasContent.model_validate`. -/
def read (content : CanvasContent) : Except String CanvasContent := do
  let title ← readText 240 content.title
  let subtitle ← readText 240 content.subtitle
  let dateRange ← readText 120 content.dateRange
  let description ← readText 10000 content.description
  let bullets ← readBullets content.bullets
  return { title, subtitle, dateRange, description, bullets }

/-- A field as the validators leave it. -/
def FieldFits (content : CanvasContent) : ManualField → Prop
  | .title => IsPlain content.title ∧ content.title.length ≤ 240
  | .subtitle => IsPlain content.subtitle ∧ content.subtitle.length ≤ 240
  | .dateRange => IsPlain content.dateRange ∧ content.dateRange.length ≤ 120
  | .description => IsPlain content.description ∧ content.description.length ≤ 10000
  | .bullets => content.bullets.length ≤ 50 ∧
      ∀ item ∈ content.bullets, IsPlain item ∧ item ≠ "" ∧ item.length ≤ 1000

/-- A content the validators return. -/
def Valid (content : CanvasContent) : Prop := ∀ field, content.FieldFits field

end CanvasContent

theorem readText_valid {limit : Nat} {value text : String}
    (accepted : readText limit value = .ok text) : IsPlain text ∧ text.length ≤ limit := by
  simp only [readText, bind_ok_iff, refuseWhen_ok_iff, not_lt] at accepted
  obtain ⟨-, short, read⟩ := accepted
  obtain ⟨plain, shorter⟩ := isPlain_of_plainText read
  exact ⟨plain, shorter.trans short⟩

theorem readText_self {limit : Nat} {text : String}
    (fits : IsPlain text ∧ text.length ≤ limit) : readText limit text = .ok text := by
  simp only [readText, bind_ok_iff, refuseWhen_ok_iff, not_lt]
  exact ⟨⟨⟩, fits.2, fits.1⟩

theorem readBullets_valid {values bullets : List String}
    (accepted : readBullets values = .ok bullets) : bullets.length ≤ 50 ∧
      ∀ item ∈ bullets, IsPlain item ∧ item ≠ "" ∧ item.length ≤ 1000 := by
  simp only [readBullets, bind_ok_iff, refuseWhen_ok_iff, pure_ok_iff, not_lt] at accepted
  obtain ⟨-, few, normalized, mapped, -, solid, -, short, rfl⟩ := accepted
  constructor
  · rwa [← (mapM_ok_iff_forall₂.mp mapped).length_eq]
  · intro item member
    obtain ⟨value, -, read⟩ := (mem_of_mapM_ok mapped).mp member
    refine ⟨(isPlain_of_plainText read).1, fun empty => solid (empty ▸ member), ?_⟩
    exact not_lt.mp fun long => short ⟨item, member, long⟩

/-- A step that returns what it is given, over a list. -/
theorem mapM_self {Item : Type} {step : Item → Except String Item} {items : List Item}
    (self : ∀ item ∈ items, step item = .ok item) : items.mapM step = .ok items :=
  mapM_ok_iff_forall₂.mpr (List.forall₂_same.mpr self)

theorem readBullets_self {bullets : List String} (few : bullets.length ≤ 50)
    (fit : ∀ item ∈ bullets, IsPlain item ∧ item ≠ "" ∧ item.length ≤ 1000) :
    readBullets bullets = .ok bullets := by
  simp only [readBullets, bind_ok_iff, refuseWhen_ok_iff, pure_ok_iff, not_lt]
  refine ⟨⟨⟩, few, bullets, mapM_self fun item member => (fit item member).1, ⟨⟩,
    fun empty => (fit "" empty).2.1 rfl, ⟨⟩, ?_, rfl⟩
  rintro ⟨item, member, long⟩
  exact absurd (fit item member).2.2 (not_le.mpr long)

namespace CanvasContent

theorem read_valid {content outcome : CanvasContent} (accepted : content.read = .ok outcome) :
    outcome.Valid := by
  simp only [read, bind_ok_iff, pure_ok_iff] at accepted
  obtain ⟨title, first, subtitle, second, dateRange, third, description, fourth, bullets, fifth,
    rfl⟩ := accepted
  intro field
  cases field with
  | title => exact readText_valid first
  | subtitle => exact readText_valid second
  | dateRange => exact readText_valid third
  | description => exact readText_valid fourth
  | bullets => exact readBullets_valid fifth

theorem read_self {content : CanvasContent} (valid : content.Valid) :
    content.read = .ok content := by
  simp only [read, bind_ok_iff, pure_ok_iff]
  exact ⟨_, readText_self (valid .title), _, readText_self (valid .subtitle), _,
    readText_self (valid .dateRange), _, readText_self (valid .description), _,
    readBullets_self (valid .bullets).1 (valid .bullets).2, rfl⟩

theorem fieldFits_withField (content values : CanvasContent) (field other : ManualField) :
    (content.withField values field).FieldFits other ↔
      if other = field then values.FieldFits other else content.FieldFits other := by
  cases field <;> cases other <;> exact Iff.rfl

/-- Fields of one valid content on another are valid. -/
theorem valid_overlay {content values : CanvasContent} (valid : content.Valid)
    (others : values.Valid) (fields : List ManualField) :
    (content.overlay fields values).Valid := by
  unfold overlay
  induction fields generalizing content with
  | nil => exact valid
  | cons first rest inductionHypothesis =>
    refine inductionHypothesis fun field => ?_
    rw [fieldFits_withField]
    split
    · exact others field
    · exact valid field

end CanvasContent

/-! ### Reading a block -/

/-- `^[A-Za-z0-9][A-Za-z0-9_.:-]*$`, of at most 120 characters. -/
def isIdText (text : String) : Bool :=
  text.length ≤ 120 &&
    match text.toList with
    | [] => false
    | first :: rest => first.isAlphanum &&
        rest.all fun letter => letter.isAlphanum || ['_', '.', ':', '-'].contains letter

section

variable [UuidReader]

/-- `canonical_uuid`. -/
def canonicalFactId (text : String) : Except String String :=
  match UuidReader.uuid text with
  | some id => .ok id
  | none => .error "must be a UUID"

/-- `validate_fact_ids`. -/
def readFactIds (values : List String) : Except String (List String) := do
  refuseWhen (100 < values.length) "List should have at most 100 items"
  let canonical ← values.mapM canonicalFactId
  refuseWhen (¬canonical.Nodup) "block fact ids must be unique"
  return canonical

/-- The bounds of `CanvasBlockLayout`. -/
def CanvasBlockLayout.Fits (layout : CanvasBlockLayout) : Prop :=
  0 ≤ layout.spacingBeforePt ∧ layout.spacingBeforePt ≤ 24

instance (layout : CanvasBlockLayout) : Decidable layout.Fits :=
  inferInstanceAs (Decidable (_ ∧ _))

/-- `CanvasBlock.model_validate`. -/
def CanvasBlock.read (block : CanvasBlock) : Except String CanvasBlock := do
  refuseWhen (isIdText block.id = false) "String should match pattern"
  let factIds ← readFactIds block.factIds
  let content ← block.content.read
  refuseWhen (5 < block.manualFields.length) "List should have at most 5 items"
  refuseWhen (¬block.manualFields.Nodup) "manual fields must be unique"
  refuseWhen (¬block.layout.Fits) "Input should be between 0 and 24"
  refuseWhen (block.kind = .identity ∧ factIds ≠ []) "identity blocks cannot reference career facts"
  return { block with factIds, content }

/-- A block the validators return. -/
structure CanvasBlock.Valid (block : CanvasBlock) : Prop where
  id : isIdText block.id = true
  fewFacts : block.factIds.length ≤ 100
  canonical : ∀ id ∈ block.factIds, canonicalUuid id = true
  distinctFacts : block.factIds.Nodup
  content : block.content.Valid
  fewFields : block.manualFields.length ≤ 5
  distinctFields : block.manualFields.Nodup
  layout : block.layout.Fits
  identity : block.kind = .identity → block.factIds = []

theorem readFactIds_valid {values ids : List String} (accepted : readFactIds values = .ok ids) :
    ids.length ≤ 100 ∧ (∀ id ∈ ids, canonicalUuid id = true) ∧ ids.Nodup := by
  simp only [readFactIds, bind_ok_iff, refuseWhen_ok_iff, pure_ok_iff, not_lt, not_not]
    at accepted
  obtain ⟨-, few, canonical, mapped, -, distinct, rfl⟩ := accepted
  refine ⟨(mapM_ok_iff_forall₂.mp mapped).length_eq ▸ few, fun id member => ?_, distinct⟩
  obtain ⟨value, -, read⟩ := (mem_of_mapM_ok mapped).mp member
  unfold canonicalFactId at read
  split at read
  · rename_i id' known
    obtain rfl := Except.ok.inj read
    exact UuidReader.canonical_uuid value _ known
  · cases read

theorem readFactIds_self {ids : List String} (few : ids.length ≤ 100)
    (canonical : ∀ id ∈ ids, canonicalUuid id = true) (distinct : ids.Nodup) :
    readFactIds ids = .ok ids := by
  simp only [readFactIds, bind_ok_iff, refuseWhen_ok_iff, pure_ok_iff, not_lt, not_not]
  refine ⟨⟨⟩, few, ids, mapM_self fun id member => ?_, ⟨⟩, distinct, rfl⟩
  rw [canonicalFactId, UuidReader.uuid_of_canonical id (canonical id member)]

namespace CanvasBlock

theorem read_valid {block outcome : CanvasBlock} (accepted : block.read = .ok outcome) :
    outcome.Valid := by
  simp only [read, bind_ok_iff, refuseWhen_ok_iff, pure_ok_iff, not_lt, not_not, not_and,
    Bool.not_eq_false] at accepted
  obtain ⟨-, id, factIds, facts, content, contents, -, fewFields, -, distinctFields, -, layout, -,
    identity, rfl⟩ := accepted
  obtain ⟨fewFacts, canonical, distinctFacts⟩ := readFactIds_valid facts
  exact { id, fewFacts, canonical, distinctFacts, fewFields, distinctFields, layout, identity
          content := CanvasContent.read_valid contents }

theorem read_self {block : CanvasBlock} (valid : block.Valid) : block.read = .ok block := by
  simp only [read, bind_ok_iff, refuseWhen_ok_iff, pure_ok_iff, not_lt, not_not, not_and,
    Bool.not_eq_false]
  exact ⟨⟨⟩, valid.id, _, readFactIds_self valid.fewFacts valid.canonical valid.distinctFacts, _,
    CanvasContent.read_self valid.content, ⟨⟩, valid.fewFields, ⟨⟩, valid.distinctFields, ⟨⟩,
    valid.layout, ⟨⟩, valid.identity, rfl⟩

end CanvasBlock

end

end CareerOS
