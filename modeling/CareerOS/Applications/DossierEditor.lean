/-
This file is the dossier editor of the client and what it publishes. The editor trims texts
as the browser does and the server strips them as Python does. The browser also removes the
byte order mark U+FEFF; Python also removes U+001C to U+001F and U+0085. So a saved draft is
published as it was saved exactly when no text has a byte order mark at an edge that the
browser trims, no text of a row is blank for Python alone, and the request fits its bound.
-/

import CareerOS.Applications.DossierInput
import CareerOS.Library.Edges

namespace CareerOS

open Text

/-! ### Trimming in the browser -/

/-- The white space and line ends that `String.prototype.trim` removes. -/
def isScriptSpace (letter : Char) : Bool :=
  let code := letter.toNat
  (0x09 ≤ code && code ≤ 0x0d) || code == 0x20 || code == 0xa0 || code == 0x1680 ||
    (0x2000 ≤ code && code ≤ 0x200a) || code == 0x2028 || code == 0x2029 || code == 0x202f ||
    code == 0x205f || code == 0x3000 || code == 0xfeff

/-- `text.trim()` in the browser. -/
def scriptTrim (text : String) : String := String.ofList (trim isScriptSpace text.toList)

/-- `text || null` in the browser. -/
def textOrNull (text : String) : Option String := if text = "" then none else some text

/-! ### The editor -/

/-- The form of the editor; the `id` of a row is its client identifier. -/
structure DossierForm where
  requirements : List DossierDraftRequirementEvidence
  coverLetter : String
  answers : List DossierDraftAnswer
  checklist : List DossierDraftChecklistItem
  letterOptions : Option LetterOptions
  emailDraft : Option EmailDraft
  evidenceClaims : List MaterialEvidenceClaim
  generationProvenance : Option GenerationProvenance

/-- `draftContent`. -/
def draftContent (form : DossierForm) : ApplicationDossierDraftContent where
  coverLetter := textOrNull form.coverLetter
  answers := form.answers
  checklist := form.checklist
  requirementMatrix := form.requirements
  letterOptions := form.letterOptions
  emailDraft := form.emailDraft
  generationProvenance := form.generationProvenance
  evidenceClaims := form.evidenceClaims

/-- `formFromDraft`, of a draft that has content. -/
def formFromDraft (content : ApplicationDossierDraftContent) : DossierForm where
  requirements := content.requirementMatrix
  coverLetter := content.coverLetter.getD ""
  answers := content.answers
  checklist := content.checklist
  letterOptions := content.letterOptions
  emailDraft := content.emailDraft
  evidenceClaims := content.evidenceClaims
  generationProvenance := content.generationProvenance

/-- `publishContent`. -/
def publishContent (content : ApplicationDossierDraftContent) : DossierContent where
  coverLetter := textOrNull (scriptTrim (content.coverLetter.getD ""))
  answers := (content.answers.filter fun row =>
      scriptTrim row.question ≠ "" ∧ scriptTrim row.answer ≠ "").map fun row =>
    ⟨scriptTrim row.question, scriptTrim row.answer⟩
  checklist := (content.checklist.filter fun row => scriptTrim row.label ≠ "").map fun row =>
    ⟨scriptTrim row.label, row.completed⟩
  requirementMatrix := content.requirementMatrix.map fun row =>
    ⟨scriptTrim row.requirement, row.evidenceFactIds⟩
  letterOptions := content.letterOptions
  emailDraft := content.emailDraft
  generationProvenance := content.generationProvenance
  evidenceClaims := content.evidenceClaims

/-- The tests of the editor before it publishes. -/
structure EditorAccepts (form : DossierForm) : Prop where
  requirements : ∀ row ∈ form.requirements,
    scriptTrim row.requirement ≠ "" ∧ row.evidenceFactIds ≠ []
  answers : ∀ row ∈ form.answers, scriptTrim row.question ≠ "" ↔ scriptTrim row.answer ≠ ""
  checklist : ∀ row ∈ form.checklist, row.completed = true → scriptTrim row.label ≠ ""

/-- The revisions a draft is published at, and the version of the resume that goes with it. -/
structure PublicationTarget [DossierReaders] where
  applicationRevision : Nat
  draftRevision : Nat
  resumeVersionId : Option String
  applicationRevision_pos : 1 ≤ applicationRevision
  draftRevision_pos : 1 ≤ draftRevision
  identified : readGiven readUuid resumeVersionId = .ok resumeVersionId

section

variable [DossierReaders]

/-- The request that publishes some content. -/
def publishRequest (target : PublicationTarget) (content : DossierContent) :
    ApplicationDossierCreate where
  expectedRevision := target.applicationRevision
  expectedDraftRevision := some target.draftRevision
  resumeVersionId := target.resumeVersionId
  content := content

/-- The request that the editor builds from a saved draft is accepted, and its content is that
of the draft. -/
def PublishesAsSaved (target : PublicationTarget) (draft : ApplicationDossierDraftContent) :
    Prop :=
  ∃ request, (publishRequest target (publishContent (draftContent (formFromDraft draft)))).read =
      .ok request ∧
    publishableDraftContent draft.read.toOption = .ok (requestedDossierContent request)

end

/-! ### Texts that both sides read alike -/

/-- The browser trims no byte order mark from the text. -/
def StripsAlike (text : String) : Prop := '\uFEFF' ∉ edges isScriptSpace text.toList

/-- A text that is filled for the browser is filled for Python. -/
def FilledAlike (text : String) : Prop := scriptTrim text ≠ "" → strip text ≠ ""

/-- The texts of a row. -/
def RowAlike (texts : List String) : Prop := ∀ text ∈ texts, StripsAlike text ∧ FilledAlike text

/-- The texts of a draft are read alike. -/
structure TextsAlike (draft : ApplicationDossierDraftContent) : Prop where
  coverLetter : ∀ text ∈ draft.coverLetter, StripsAlike text
  answers : ∀ row ∈ draft.answers, RowAlike [row.question, row.answer]
  checklist : ∀ row ∈ draft.checklist, RowAlike [row.label]
  requirements : ∀ row ∈ draft.requirementMatrix, RowAlike [row.requirement]

/-- A draft with its texts stripped and without blank answers and checklist items. -/
def strippedContent (draft : ApplicationDossierDraftContent) : DossierContent where
  coverLetter := draft.coverLetter.bind stripOrNone
  answers := draft.answers.filterMap fun row =>
    if strip row.question = "" then none else some ⟨strip row.question, strip row.answer⟩
  checklist := draft.checklist.filterMap fun row =>
    if strip row.label = "" then none else some ⟨strip row.label, row.completed⟩
  requirementMatrix := draft.requirementMatrix.map fun row =>
    ⟨strip row.requirement, row.evidenceFactIds⟩
  letterOptions := draft.letterOptions
  emailDraft := draft.emailDraft
  generationProvenance := draft.generationProvenance
  evidenceClaims := draft.evidenceClaims

/-- What the browser trims is Python's white space, but for the byte order mark. -/
theorem isSpace_iff_of_isScriptSpace {letter : Char} (trimmed : isScriptSpace letter = true) :
    isSpace letter = true ↔ letter ≠ '\uFEFF' := by
  have code : letter = '\uFEFF' ↔ letter.toNat = 0xfeff :=
    ⟨fun same => congrArg Char.toNat same, fun same => Char.toNat_inj.mp same⟩
  rw [ne_eq, code]
  simp only [isScriptSpace, isSpace, Bool.or_eq_true, Bool.and_eq_true, decide_eq_true_eq,
    beq_iff_eq] at trimmed ⊢
  omega

theorem strip_eq_ofList_trim (text : String) :
    strip text = String.ofList (trim isSpace text.toList) := rfl

variable {text : String}

/-- The server strips what the browser trimmed as it strips the whole text. -/
theorem strip_scriptTrim_eq_iff :
    strip (scriptTrim text) = strip text ↔ StripsAlike text := by
  rw [strip_eq_ofList_trim, strip_eq_ofList_trim, String.ofList_inj, scriptTrim,
    String.toList_ofList, trim_trim_eq_iff]
  unfold StripsAlike
  constructor
  · intro among marked
    exact (isSpace_iff_of_isScriptSpace (kind_of_mem_edges marked)).mp (among _ marked) rfl
  · intro unmarked letter member
    refine (isSpace_iff_of_isScriptSpace (kind_of_mem_edges member)).mpr ?_
    rintro rfl
    exact unmarked member

theorem length_scriptTrim_le (text : String) : (scriptTrim text).length ≤ text.length := by
  rw [← String.length_toList, ← String.length_toList, scriptTrim, String.toList_ofList]
  exact length_trim_le isScriptSpace text.toList

/-- What is blank for Python is blank for it after the browser trimmed it. -/
theorem strip_scriptTrim_of_blank (blank : strip text = "") :
    strip (scriptTrim text) = "" := by
  have spaces : ∀ letter ∈ text.toList, isSpace letter = true := by
    refine trim_eq_nil_iff.mp ?_
    have empty := congrArg String.toList blank
    rwa [toList_strip, stripList_eq_trim] at empty
  rw [← blank, strip_scriptTrim_eq_iff]
  intro marked
  have space := spaces _ (mem_of_mem_edges marked)
  exact (isSpace_iff_of_isScriptSpace (kind_of_mem_edges marked)).mp space rfl

/-! ### Rows kept on one side and on the other -/

section

variable {Row Item : Type} {kept : Row → Bool} {form : Row → Item}
  {read : Item → Except String Item} {publish : Row → Except ApplicationError (Option Item)}

/-- What a row becomes in the request is what it becomes in the saved draft. -/
def RowAgrees (kept : Row → Bool) (form : Row → Item) (read : Item → Except String Item)
    (publish : Row → Except ApplicationError (Option Item)) (row : Row) : Prop :=
  if kept row then ∃ item, read (form row) = .ok item ∧ publish row = .ok (some item)
  else publish row = .ok none

/-- The draft has at least the rows of the request. -/
theorem length_le_of_solid
    (solid : ∀ row item, kept row = true → read (form row) = .ok item → publish row ≠ .ok none) :
    ∀ {rows : List Row} {items : List Item} {outcomes : List (Option Item)},
      ((rows.filter kept).map form).mapM read = .ok items → rows.mapM publish = .ok outcomes →
      items.length ≤ outcomes.reduceOption.length := by
  intro rows
  induction rows with
  | nil =>
    intro items outcomes mapped _
    obtain rfl := Except.ok.inj mapped
    exact Nat.zero_le _
  | cons row rest inductionHypothesis =>
    intro items outcomes mapped published
    simp only [List.mapM_cons, bind_ok_iff, pure_ok_iff] at published
    obtain ⟨outcome, here, others, there, rfl⟩ := published
    by_cases keep : kept row = true
    · rw [List.filter_cons_of_pos keep, List.map_cons] at mapped
      simp only [List.mapM_cons, bind_ok_iff, pure_ok_iff] at mapped
      obtain ⟨item, taken, items, mapped, rfl⟩ := mapped
      cases outcome with
      | none => exact absurd here (solid row item keep taken)
      | some found =>
        rw [List.reduceOption_cons_of_some]
        exact Nat.succ_le_succ (inductionHypothesis mapped there)
    · rw [List.filter_cons_of_neg keep] at mapped
      refine (inductionHypothesis mapped there).trans ?_
      cases outcome with
      | none => rw [List.reduceOption_cons_of_none]
      | some found =>
        rw [List.reduceOption_cons_of_some]
        exact Nat.le_succ _

/-- Both sides make the same list exactly when every row agrees. -/
theorem rows_agree_iff
    (solid : ∀ row item, kept row = true → read (form row) = .ok item → publish row ≠ .ok none)
    {rows : List Row} :
    (∃ items outcomes, ((rows.filter kept).map form).mapM read = .ok items ∧
        rows.mapM publish = .ok outcomes ∧ outcomes.reduceOption = items) ↔
      ∀ row ∈ rows, RowAgrees kept form read publish row := by
  induction rows with
  | nil => exact ⟨fun _ _ => nofun, fun _ => ⟨[], [], rfl, rfl, rfl⟩⟩
  | cons row rest inductionHypothesis =>
    rw [List.forall_mem_cons, ← inductionHypothesis]
    unfold RowAgrees
    simp only [List.mapM_cons, bind_ok_iff, pure_ok_iff]
    by_cases keep : kept row = true
    · rw [List.filter_cons_of_pos keep, List.map_cons, if_pos keep]
      simp only [List.mapM_cons, bind_ok_iff, pure_ok_iff]
      constructor
      · rintro ⟨_, _, ⟨item, taken, items, mapped, rfl⟩, ⟨outcome, here, outcomes, there, rfl⟩,
          same⟩
        cases outcome with
        | none => exact absurd here (solid row item keep taken)
        | some found =>
          rw [List.reduceOption_cons_of_some, List.cons.injEq] at same
          obtain ⟨rfl, same⟩ := same
          exact ⟨⟨found, taken, here⟩, items, outcomes, mapped, there, same⟩
      · rintro ⟨⟨item, taken, here⟩, items, outcomes, mapped, there, rfl⟩
        exact ⟨_, _, ⟨item, taken, _, mapped, rfl⟩, ⟨some item, here, outcomes, there, rfl⟩,
          List.reduceOption_cons_of_some _ _⟩
    · rw [List.filter_cons_of_neg keep, if_neg keep]
      constructor
      · rintro ⟨items, _, mapped, ⟨outcome, here, outcomes, there, rfl⟩, same⟩
        cases outcome with
        | none =>
          rw [List.reduceOption_cons_of_none] at same
          exact ⟨here, items, outcomes, mapped, there, same⟩
        | some found =>
          -- the draft has one row more than the request
          have fewer := length_le_of_solid solid mapped there
          rw [List.reduceOption_cons_of_some] at same
          rw [← same, List.length_cons] at fewer
          omega
      · rintro ⟨here, items, outcomes, mapped, there, same⟩
        exact ⟨items, _, mapped, ⟨none, here, outcomes, there, rfl⟩,
          by rw [List.reduceOption_cons_of_none, same]⟩

end

/-! ### The rows of a dossier -/

/-- An answer that the draft takes is its stripped texts. -/
theorem publishableAnswer_ok_iff {row : DossierDraftAnswer} {outcome : Option DossierAnswer} :
    publishableAnswer row = .ok outcome ↔ (strip row.question = "" ↔ strip row.answer = "") ∧
      outcome = if strip row.question = "" then none
        else some ⟨strip row.question, strip row.answer⟩ := by
  by_cases question : strip row.question = ""
  · by_cases answer : strip row.answer = ""
    · simp [publishableAnswer, question, answer, eq_comm]
    · simp [publishableAnswer, question, answer]
  · by_cases answer : strip row.answer = ""
    · simp [publishableAnswer, question, answer]
    · simp [publishableAnswer, question, answer, eq_comm]

/-- A checklist item that the draft takes is its stripped label. -/
theorem publishableChecklistItem_ok_iff {row : DossierDraftChecklistItem}
    {outcome : Option DossierChecklistItem} :
    publishableChecklistItem row = .ok outcome ↔ (row.completed = true → strip row.label ≠ "") ∧
      outcome = if strip row.label = "" then none else some ⟨strip row.label, row.completed⟩ := by
  by_cases label : strip row.label = ""
  · by_cases completed : row.completed = true
    · simp [publishableChecklistItem, label, completed]
    · simp only [publishableChecklistItem, label, completed, Bool.false_eq_true, false_and,
        if_false, ne_eq, not_true_eq_false, if_true, Except.ok.injEq, false_implies, true_and]
      exact eq_comm
  · simp only [publishableChecklistItem, label, and_false, if_false, ne_eq, not_false_eq_true,
      if_true, Except.ok.injEq, implies_true, true_and]
    exact eq_comm

/-- A requirement that the draft takes is its stripped text with its evidence. -/
theorem publishableRequirement_ok_iff {row : DossierDraftRequirementEvidence}
    {outcome : Option DossierRequirementEvidence} :
    publishableRequirement row = .ok outcome ↔
      (strip row.requirement ≠ "" ∧ row.evidenceFactIds ≠ []) ∧
        outcome = some ⟨strip row.requirement, row.evidenceFactIds⟩ := by
  by_cases text : strip row.requirement = ""
  · simp [publishableRequirement, text]
  · by_cases evidence : row.evidenceFactIds = []
    · simp [publishableRequirement, evidence]
    · simp [publishableRequirement, text, evidence, eq_comm]

/-- Texts that are read alike, where the browser trims nothing away. -/
theorem alike_of_filled_iff (filled : scriptTrim text ≠ "") :
    StripsAlike text ∧ FilledAlike text ↔
      strip (scriptTrim text) = strip text ∧ strip text ≠ "" := by
  rw [strip_scriptTrim_eq_iff]
  exact and_congr_right fun _ => ⟨fun alike => alike filled, fun solid _ => solid⟩

/-- Texts that are read alike, where the browser trims everything away. -/
theorem alike_of_blank_iff (blank : scriptTrim text = "") :
    StripsAlike text ∧ FilledAlike text ↔ strip text = "" := by
  rw [← strip_scriptTrim_eq_iff, blank]
  constructor
  · exact fun alike => alike.1.symm
  · intro empty
    exact ⟨empty.symm, fun filled => absurd blank filled⟩

theorem rowAlike_one_iff :
    RowAlike [text] ↔ StripsAlike text ∧ FilledAlike text := by
  unfold RowAlike
  rw [List.forall_mem_cons]
  exact and_iff_left nofun

theorem rowAlike_two_iff {first second : String} : RowAlike [first, second] ↔
    (StripsAlike first ∧ FilledAlike first) ∧ StripsAlike second ∧ FilledAlike second := by
  unfold RowAlike
  rw [List.forall_mem_cons, List.forall_mem_cons]
  exact and_congr_right fun _ => and_iff_left nofun

theorem answerRead_ok_iff {row item : DossierAnswer} : row.read = .ok item ↔
    ((1 ≤ row.question.length ∧ row.question.length ≤ 1000) ∧
      (1 ≤ row.answer.length ∧ row.answer.length ≤ 20000)) ∧
      (strip row.question ≠ "" ∧ strip row.answer ≠ "") ∧
        item = ⟨strip row.question, strip row.answer⟩ := by
  simp only [DossierAnswer.read, bind_ok_iff, boundedText_ok_iff, refuseWhen_ok_iff, pure_ok_iff]
  constructor
  · rintro ⟨_, question, _, answer, _, solid, _, also, rfl⟩
    exact ⟨⟨question, answer⟩, ⟨solid, also⟩, rfl⟩
  · rintro ⟨⟨question, answer⟩, ⟨solid, also⟩, rfl⟩
    exact ⟨(), question, (), answer, (), solid, (), also, rfl⟩

/-- An answer agrees exactly when its texts are read alike. -/
theorem answer_agrees_iff {row : DossierDraftAnswer}
    (complete : scriptTrim row.question ≠ "" ↔ scriptTrim row.answer ≠ "")
    (question : row.question.length ≤ 1000) (answer : row.answer.length ≤ 20000) :
    RowAgrees
        (fun row : DossierDraftAnswer => decide
          (scriptTrim row.question ≠ "" ∧ scriptTrim row.answer ≠ ""))
        (fun row => ⟨scriptTrim row.question, scriptTrim row.answer⟩)
        DossierAnswer.read publishableAnswer row ↔
      RowAlike [row.question, row.answer] := by
  unfold RowAgrees
  rw [rowAlike_two_iff]
  by_cases filled : scriptTrim row.question ≠ ""
  · have also := complete.mp filled
    rw [if_pos (decide_eq_true ⟨filled, also⟩), alike_of_filled_iff filled,
      alike_of_filled_iff also]
    simp only [answerRead_ok_iff, publishableAnswer_ok_iff]
    have bounds : (1 ≤ (scriptTrim row.question).length ∧
        (scriptTrim row.question).length ≤ 1000) ∧
        (1 ≤ (scriptTrim row.answer).length ∧ (scriptTrim row.answer).length ≤ 20000) :=
      ⟨⟨length_pos_of_ne filled, (length_scriptTrim_le _).trans question⟩,
        length_pos_of_ne also, (length_scriptTrim_le _).trans answer⟩
    constructor
    · rintro ⟨item, ⟨-, ⟨solid, alsoSolid⟩, rfl⟩, -, same⟩
      split at same
      · cases same
      · rename_i first
        injection same with same
        injection same with questions answers
        rw [answers] at alsoSolid
        exact ⟨⟨questions, first⟩, answers, alsoSolid⟩
    · rintro ⟨⟨questions, first⟩, answers, second⟩
      refine ⟨_, ⟨bounds, ⟨?_, ?_⟩, rfl⟩, ?_, ?_⟩
      · rwa [questions]
      · rwa [answers]
      · exact ⟨fun empty => absurd empty first, fun empty => absurd empty second⟩
      · rw [if_neg first, questions, answers]
  · have blank := not_not.mp filled
    have also : scriptTrim row.answer = "" := not_not.mp fun other => filled (complete.mpr other)
    have dropped : ¬decide (scriptTrim row.question ≠ "" ∧ scriptTrim row.answer ≠ "") = true :=
      fun keep => (of_decide_eq_true keep).1 blank
    rw [if_neg dropped, alike_of_blank_iff blank, alike_of_blank_iff also,
      publishableAnswer_ok_iff]
    constructor
    · rintro ⟨even, same⟩
      split at same
      · rename_i first
        exact ⟨first, even.mp first⟩
      · cases same
    · rintro ⟨first, second⟩
      rw [if_pos first]
      exact ⟨⟨fun _ => second, fun _ => first⟩, rfl⟩

theorem checklistRead_ok_iff {row item : DossierChecklistItem} : row.read = .ok item ↔
    (1 ≤ row.label.length ∧ row.label.length ≤ 500) ∧ strip row.label ≠ "" ∧
      item = ⟨strip row.label, row.completed⟩ := by
  simp only [DossierChecklistItem.read, bind_ok_iff, boundedText_ok_iff, refuseWhen_ok_iff,
    pure_ok_iff]
  constructor
  · rintro ⟨_, label, _, solid, rfl⟩
    exact ⟨label, solid, rfl⟩
  · rintro ⟨label, solid, rfl⟩
    exact ⟨(), label, (), solid, rfl⟩

/-- A checklist item agrees exactly when its label is read alike. -/
theorem checklistItem_agrees_iff {row : DossierDraftChecklistItem}
    (complete : row.completed = true → scriptTrim row.label ≠ "")
    (label : row.label.length ≤ 500) :
    RowAgrees (fun row : DossierDraftChecklistItem => decide (scriptTrim row.label ≠ ""))
        (fun row => ⟨scriptTrim row.label, row.completed⟩)
        DossierChecklistItem.read publishableChecklistItem row ↔
      RowAlike [row.label] := by
  unfold RowAgrees
  rw [rowAlike_one_iff]
  by_cases filled : scriptTrim row.label ≠ ""
  · rw [if_pos (decide_eq_true filled), alike_of_filled_iff filled]
    simp only [checklistRead_ok_iff, publishableChecklistItem_ok_iff]
    constructor
    · rintro ⟨item, ⟨-, -, rfl⟩, -, same⟩
      split at same
      · cases same
      · rename_i solid
        injection same with same
        injection same with labels
        exact ⟨labels, solid⟩
    · rintro ⟨labels, solid⟩
      refine ⟨_, ⟨⟨length_pos_of_ne filled, (length_scriptTrim_le _).trans label⟩, ?_, rfl⟩,
        fun _ => solid, ?_⟩
      · rwa [labels]
      · rw [if_neg solid, labels]
  · have blank := not_not.mp filled
    rw [if_neg (by simp [blank]), alike_of_blank_iff blank, publishableChecklistItem_ok_iff]
    constructor
    · rintro ⟨-, same⟩
      split at same
      · assumption
      · cases same
    · intro empty
      rw [if_pos empty]
      exact ⟨fun completed => absurd blank (complete completed), rfl⟩

section

variable [DossierReaders]

theorem requirementRead_ok_iff {row item : DossierRequirementEvidence} : row.read = .ok item ↔
    (1 ≤ row.requirement.length ∧ row.requirement.length ≤ 2000) ∧
      strip row.requirement ≠ "" ∧ ∃ ids, readUuids 1 10
        "Evidence fact ids must be unique per requirement" row.evidenceFactIds = .ok ids ∧
      item = ⟨strip row.requirement, ids⟩ := by
  simp only [DossierRequirementEvidence.read, bind_ok_iff, boundedText_ok_iff, refuseWhen_ok_iff,
    pure_ok_iff]
  constructor
  · rintro ⟨_, text, _, solid, ids, evidence, rfl⟩
    exact ⟨text, solid, ids, evidence, rfl⟩
  · rintro ⟨text, solid, ids, evidence, rfl⟩
    exact ⟨(), text, (), solid, ids, evidence, rfl⟩

/-- A requirement agrees exactly when its text is read alike. -/
theorem requirement_agrees_iff {row : DossierDraftRequirementEvidence}
    (filled : scriptTrim row.requirement ≠ "") (evidence : row.evidenceFactIds ≠ [])
    (text : row.requirement.length ≤ 2000) (few : row.evidenceFactIds.length ≤ 10)
    (stored : row.evidenceFactIds.mapM readUuid = .ok row.evidenceFactIds)
    (distinct : row.evidenceFactIds.Nodup) :
    RowAgrees (fun _ : DossierDraftRequirementEvidence => true)
        (fun row => ⟨scriptTrim row.requirement, row.evidenceFactIds⟩)
        DossierRequirementEvidence.read publishableRequirement row ↔
      RowAlike [row.requirement] := by
  unfold RowAgrees
  rw [rowAlike_one_iff, if_pos rfl, alike_of_filled_iff filled]
  simp only [requirementRead_ok_iff, publishableRequirement_ok_iff]
  constructor
  · rintro ⟨item, ⟨-, -, ids, -, rfl⟩, ⟨solid, -⟩, same⟩
    injection same with same
    injection same with texts
    exact ⟨texts, solid⟩
  · rintro ⟨texts, solid⟩
    have ids : readUuids 1 10 "Evidence fact ids must be unique per requirement"
        row.evidenceFactIds = .ok row.evidenceFactIds :=
      readUuids_ok_iff.mpr ⟨⟨List.length_pos_iff.mpr evidence, few⟩, stored, distinct⟩
    refine ⟨_, ⟨⟨length_pos_of_ne filled, (length_scriptTrim_le _).trans text⟩, ?_, _, ids, rfl⟩,
      ⟨solid, evidence⟩, ?_⟩
    · rwa [texts]
    · rw [texts]

/-! ### The cover letter -/

omit [DossierReaders] in
theorem stripOrNone_eq_iff {first second : String} :
    stripOrNone first = stripOrNone second ↔ strip first = strip second := by
  unfold stripOrNone blank
  by_cases empty : strip first = ""
  · by_cases also : strip second = ""
    · simp [empty, also]
    · simp [empty, also, Ne.symm also]
  · by_cases also : strip second = ""
    · simp [empty, also]
    · simp [empty, also]

omit [DossierReaders] in
theorem bind_stripOrNone_again (text : Option String) :
    (text.bind stripOrNone).bind stripOrNone = text.bind stripOrNone := by
  cases text with
  | none => rfl
  | some text =>
    rw [Option.bind_some]
    cases kept : stripOrNone text with
    | none => rfl
    | some written =>
      have stripped : written = strip text := by
        unfold stripOrNone at kept
        split at kept
        · cases kept
        · exact (Option.some.inj kept).symm
      rw [Option.bind_some, ← kept, stripOrNone_eq_iff, stripped, strip_strip]

omit [DossierReaders] in
/-- The cover letter is published as it was saved exactly when it is stripped alike. -/
theorem coverLetter_agrees_iff {coverLetter : Option String} :
    (textOrNull (scriptTrim (coverLetter.getD ""))).bind stripOrNone =
        coverLetter.bind stripOrNone ↔ ∀ text ∈ coverLetter, StripsAlike text := by
  have null : ∀ text, (textOrNull text).bind stripOrNone = stripOrNone text := by
    intro text
    unfold textOrNull
    split
    · rename_i empty
      rw [empty]
      rfl
    · rfl
  rw [null]
  cases coverLetter with
  | none => exact ⟨fun _ _ => nofun, fun _ => rfl⟩
  | some text =>
    rw [Option.getD_some, Option.bind_some, stripOrNone_eq_iff, strip_scriptTrim_eq_iff]
    exact ⟨fun alike _ same => Option.some.inj same ▸ alike, fun alike => alike text rfl⟩

/-! ### The whole dossier -/

variable {draft : ApplicationDossierDraftContent}

section

omit [DossierReaders]

/-- A form made of a draft is published as the draft. -/
theorem publishContent_draftContent (draft : ApplicationDossierDraftContent) :
    publishContent (draftContent (formFromDraft draft)) = publishContent draft := by
  have letter : ((textOrNull (draft.coverLetter.getD "")).getD "") = draft.coverLetter.getD "" := by
    unfold textOrNull
    split
    · rename_i empty
      exact empty.symm
    · rfl
  unfold publishContent draftContent formFromDraft
  rw [letter]

/-- What the rows of a draft become, where each becomes what a function says. -/
theorem reduceOption_of_mapM {Row Item : Type}
    {publish : Row → Except ApplicationError (Option Item)} {made : Row → Option Item}
    (each : ∀ {row outcome}, publish row = .ok outcome → outcome = made row) {rows : List Row} :
    ∀ {outcomes : List (Option Item)}, rows.mapM publish = .ok outcomes →
      outcomes.reduceOption = rows.filterMap made := by
  induction rows with
  | nil =>
    intro outcomes mapped
    obtain rfl := Except.ok.inj mapped
    rfl
  | cons row rest inductionHypothesis =>
    intro outcomes mapped
    simp only [List.mapM_cons, bind_ok_iff, pure_ok_iff] at mapped
    obtain ⟨outcome, here, others, there, rfl⟩ := mapped
    obtain rfl := each here
    rw [List.filterMap_cons, ← inductionHypothesis there]
    cases made row with
    | none => exact List.reduceOption_cons_of_none _
    | some item => exact List.reduceOption_cons_of_some _ _

theorem strippedAnswers {answers : List (Option DossierAnswer)}
    (mapped : draft.answers.mapM publishableAnswer = .ok answers) :
    answers.reduceOption = (strippedContent draft).answers :=
  reduceOption_of_mapM (fun here => (publishableAnswer_ok_iff.mp here).2) mapped

theorem strippedChecklist {checklist : List (Option DossierChecklistItem)}
    (mapped : draft.checklist.mapM publishableChecklistItem = .ok checklist) :
    checklist.reduceOption = (strippedContent draft).checklist :=
  reduceOption_of_mapM (fun here => (publishableChecklistItem_ok_iff.mp here).2) mapped

theorem strippedRequirements {requirements : List (Option DossierRequirementEvidence)}
    (mapped : draft.requirementMatrix.mapM publishableRequirement = .ok requirements) :
    requirements.reduceOption = (strippedContent draft).requirementMatrix := by
  rw [reduceOption_of_mapM (fun here => (publishableRequirement_ok_iff.mp here).2) mapped]
  exact congrFun List.filterMap_eq_map _

/-- A draft that can be published is published with its texts stripped. -/
theorem publishableDraftContent_ok_iff {content : DossierContent} :
    publishableDraftContent (some draft) = .ok content ↔
      (∃ answers, draft.answers.mapM publishableAnswer = .ok answers) ∧
      (∃ checklist, draft.checklist.mapM publishableChecklistItem = .ok checklist) ∧
      (∃ requirements, draft.requirementMatrix.mapM publishableRequirement = .ok requirements) ∧
      content = strippedContent draft := by
  simp only [publishableDraftContent, bind_ok_iff, pure_ok_iff]
  constructor
  · rintro ⟨answers, first, checklist, second, requirements, third, rfl⟩
    refine ⟨⟨answers, first⟩, ⟨checklist, second⟩, ⟨requirements, third⟩, ?_⟩
    rw [strippedAnswers first, strippedChecklist second, strippedRequirements third]
    rfl
  · rintro ⟨⟨answers, first⟩, ⟨checklist, second⟩, ⟨requirements, third⟩, rfl⟩
    refine ⟨answers, first, checklist, second, requirements, third, ?_⟩
    rw [strippedAnswers first, strippedChecklist second, strippedRequirements third]
    rfl

end

/-- The request is accepted with the content that its validation returns, if it fits. -/
theorem publishRequest_read_iff {target : PublicationTarget} {content : DossierContent}
    {request : ApplicationDossierCreate} :
    (publishRequest target content).read = .ok request ↔ ∃ kept, content.read = .ok kept ∧
      (publishRequest target kept).modelDump.encodedSize ≤ maxDossierInputBytes ∧
      request = publishRequest target kept := by
  simp only [ApplicationDossierCreate.read, bind_ok_iff, refuseWhen_ok_iff, pure_ok_iff, not_lt]
  constructor
  · rintro ⟨_, -, _, -, resumeVersionId, identified, kept, read, _, fits, rfl⟩
    have same := target.identified.symm.trans identified
    obtain rfl := Except.ok.inj same
    exact ⟨kept, read, fits, rfl⟩
  · rintro ⟨kept, read, fits, rfl⟩
    refine ⟨(), target.applicationRevision_pos, (), ?_, target.resumeVersionId, target.identified,
      kept, read, (), fits, rfl⟩
    rintro ⟨revision, given, low⟩
    obtain rfl := Option.some.inj given
    exact absurd target.draftRevision_pos (Nat.not_le.mpr low)

/-- What is published of a stored draft is read row by row. -/
theorem publishContent_read_iff (stored : StoredDraft draft) {kept : DossierContent} :
    (publishContent draft).read = .ok kept ↔
      (publishContent draft).answers.mapM DossierAnswer.read = .ok kept.answers ∧
      (publishContent draft).checklist.mapM DossierChecklistItem.read = .ok kept.checklist ∧
      (publishContent draft).requirementMatrix.mapM DossierRequirementEvidence.read =
        .ok kept.requirementMatrix ∧
      checkEvidence (kept.requirementMatrix.flatMap DossierRequirementEvidence.evidenceFactIds) =
        .ok () ∧
      kept.coverLetter =
        (textOrNull (scriptTrim (draft.coverLetter.getD ""))).bind stripOrNone ∧
      kept.materials = draft.materials := by
  have letter : checkGiven (boundedText 0 30000) (publishContent draft).coverLetter = .ok () := by
    unfold publishContent textOrNull
    dsimp only
    split
    · rfl
    · refine boundedText_ok_iff.mpr ⟨Nat.zero_le _, (length_scriptTrim_le _).trans ?_⟩
      have bounded := stored.coverLetter
      cases written : draft.coverLetter with
      | none => exact Nat.zero_le _
      | some text =>
        rw [written] at bounded
        exact (boundedText_ok_iff.mp bounded).2
  have answers : (publishContent draft).answers.length ≤ 25 := by
    unfold publishContent
    rw [List.length_map]
    exact (List.length_filter_le _ _).trans stored.answers
  have checklist : (publishContent draft).checklist.length ≤ 50 := by
    unfold publishContent
    rw [List.length_map]
    exact (List.length_filter_le _ _).trans stored.checklist
  have requirements : 1 ≤ (publishContent draft).requirementMatrix.length ∧
      (publishContent draft).requirementMatrix.length ≤ 25 := by
    unfold publishContent
    rw [List.length_map]
    exact stored.requirements
  have materials : (publishContent draft).materials.read = .ok draft.materials := stored.materials
  simp only [DossierContent.read, bind_ok_iff, boundedItems_ok_iff, pure_ok_iff]
  constructor
  · rintro ⟨_, -, _, -, rows, first, _, -, items, second, _, -, needs, third, others, read, _,
      evidence, rfl⟩
    rw [materials] at read
    obtain rfl := Except.ok.inj read
    exact ⟨first, second, third, evidence, rfl, rfl⟩
  · rintro ⟨first, second, third, evidence, cover, same⟩
    refine ⟨(), letter, (), ⟨Nat.zero_le _, answers⟩, kept.answers, first, (),
      ⟨Nat.zero_le _, checklist⟩, kept.checklist, second, (), requirements,
      kept.requirementMatrix, third, draft.materials, materials, (), evidence, ?_⟩
    rw [← same]
    exact congrArg (fun coverLetter => { kept with coverLetter }) cover.symm

/-- The rows that agree are those that are read alike. -/
theorem rows_alike_iff (stored : StoredDraft draft)
    (complete : EditorAccepts (formFromDraft draft)) :
    ((∃ items outcomes, (publishContent draft).answers.mapM DossierAnswer.read = .ok items ∧
        draft.answers.mapM publishableAnswer = .ok outcomes ∧ outcomes.reduceOption = items) ∧
      (∃ items outcomes,
        (publishContent draft).checklist.mapM DossierChecklistItem.read = .ok items ∧
        draft.checklist.mapM publishableChecklistItem = .ok outcomes ∧
        outcomes.reduceOption = items) ∧
      (∃ items outcomes,
        (publishContent draft).requirementMatrix.mapM DossierRequirementEvidence.read =
          .ok items ∧
        draft.requirementMatrix.mapM publishableRequirement = .ok outcomes ∧
        outcomes.reduceOption = items)) ↔
      (∀ row ∈ draft.answers, RowAlike [row.question, row.answer]) ∧
      (∀ row ∈ draft.checklist, RowAlike [row.label]) ∧
      ∀ row ∈ draft.requirementMatrix, RowAlike [row.requirement] := by
  refine and_congr ?_ (and_congr ?_ ?_)
  · refine (rows_agree_iff ?_).trans (forall₂_congr fun row member =>
      answer_agrees_iff (complete.answers row member) (stored.answerTexts row member).1
        (stored.answerTexts row member).2)
    intro row item _ read published
    have empty := (publishableAnswer_ok_iff.mp published).2
    split at empty
    · rename_i blank
      exact (answerRead_ok_iff.mp read).2.1.1 (strip_scriptTrim_of_blank blank)
    · cases empty
  · refine (rows_agree_iff ?_).trans (forall₂_congr fun row member =>
      checklistItem_agrees_iff (complete.checklist row member) (stored.labels row member))
    intro row item _ read published
    have empty := (publishableChecklistItem_ok_iff.mp published).2
    split at empty
    · rename_i blank
      exact (checklistRead_ok_iff.mp read).2.1 (strip_scriptTrim_of_blank blank)
    · cases empty
  · have every : (publishContent draft).requirementMatrix =
        (draft.requirementMatrix.filter fun _ => true).map fun row =>
          ⟨scriptTrim row.requirement, row.evidenceFactIds⟩ := by
      rw [List.filter_true]
      rfl
    rw [every]
    refine (rows_agree_iff ?_).trans (forall₂_congr fun row member => ?_)
    · intro row item _ _ published
      cases (publishableRequirement_ok_iff.mp published).2
    · obtain ⟨filled, evidence⟩ := complete.requirements row member
      obtain ⟨text, few, known, distinct⟩ := stored.requirementTexts row member
      exact requirement_agrees_iff filled evidence text few known distinct

/-- The request of an unchanged saved draft is accepted with the content of the draft exactly
when its texts are read alike and the request fits. -/
theorem publishesAsSaved_iff {content draft : ApplicationDossierDraftContent}
    (accepted : content.read = .ok draft) (complete : EditorAccepts (formFromDraft draft))
    (target : PublicationTarget) :
    PublishesAsSaved target draft ↔ TextsAlike draft ∧
      (publishRequest target (strippedContent draft)).modelDump.encodedSize ≤
        maxDossierInputBytes := by
  have stored := storedDraft_of_read accepted
  have again : draft.read.toOption = some draft := by
    rw [ApplicationDossierDraftContent.read_again accepted]
    rfl
  unfold PublishesAsSaved
  rw [publishContent_draftContent, again]
  constructor
  · rintro ⟨request, published, same⟩
    obtain ⟨kept, read, fits, rfl⟩ := publishRequest_read_iff.mp published
    obtain ⟨first, second, third, -, cover, -⟩ := (publishContent_read_iff stored).mp read
    obtain ⟨⟨answers, fourth⟩, ⟨checklist, fifth⟩, ⟨requirements, sixth⟩, whole⟩ :=
      publishableDraftContent_ok_iff.mp same
    have normal : requestedDossierContent (publishRequest target kept) = kept := by
      have again := bind_stripOrNone_again (textOrNull (scriptTrim (draft.coverLetter.getD "")))
      rw [← cover] at again
      exact congrArg (fun coverLetter => { kept with coverLetter }) again
    rw [normal] at whole
    have rows := (rows_alike_iff stored complete).mp
      ⟨⟨_, answers, first, fourth, by rw [strippedAnswers fourth, whole]⟩,
        ⟨_, checklist, second, fifth, by rw [strippedChecklist fifth, whole]⟩,
        _, requirements, third, sixth, by rw [strippedRequirements sixth, whole]⟩
    rw [whole] at cover fits
    exact ⟨⟨coverLetter_agrees_iff.mp cover.symm, rows.1, rows.2.1, rows.2.2⟩, fits⟩
  · rintro ⟨alike, fits⟩
    obtain ⟨⟨_, answers, first, fourth, rfl⟩, ⟨_, checklist, second, fifth, rfl⟩,
      ⟨_, requirements, third, sixth, rfl⟩⟩ :=
      (rows_alike_iff stored complete).mpr ⟨alike.answers, alike.checklist, alike.requirements⟩
    rw [strippedAnswers fourth] at first
    rw [strippedChecklist fifth] at second
    rw [strippedRequirements sixth] at third
    have evidence : checkEvidence ((strippedContent draft).requirementMatrix.flatMap
        DossierRequirementEvidence.evidenceFactIds) = .ok () := by
      unfold strippedContent
      rw [List.flatMap_map]
      exact stored.evidence
    have read := (publishContent_read_iff stored).mpr ⟨first, second, third, evidence,
      (coverLetter_agrees_iff.mpr alike.coverLetter).symm, rfl⟩
    refine ⟨_, publishRequest_read_iff.mpr ⟨_, read, fits, rfl⟩,
      publishableDraftContent_ok_iff.mpr ⟨⟨answers, fourth⟩, ⟨checklist, fifth⟩,
        ⟨requirements, sixth⟩, ?_⟩⟩
    exact congrArg (fun coverLetter => { strippedContent draft with coverLetter })
      (bind_stripOrNone_again draft.coverLetter)

end

/-! ### A byte order mark in a requirement -/

/-- Readers that know the canonical identifiers, and no time. -/
@[reducible] def DossierReaders.canonical : DossierReaders where
  uuid := fun text => if canonicalUuid text then some text else none
  moment := fun _ => none
  uuid_uuid := fun text id known => by
    split at known
    · rename_i canonical
      obtain rfl := Option.some.inj known
      exact if_pos canonical
    · cases known
  moment_moment := nofun

/-- A draft with one requirement. -/
def oneRequirement (requirement : String) : ApplicationDossierDraftContent where
  coverLetter := none
  answers := []
  checklist := []
  requirementMatrix := [⟨"row", requirement, ["00000000-0000-0000-0000-000000000001"]⟩]
  letterOptions := none
  emailDraft := none
  generationProvenance := none
  evidenceClaims := []

/-- The first revisions. -/
def firstTarget : @PublicationTarget .canonical :=
  @PublicationTarget.mk .canonical 1 1 none (by decide) (by decide) rfl

theorem publishesAsSaved_rust :
    @PublishesAsSaved .canonical firstTarget (oneRequirement "Rust") ↔
      TextsAlike (oneRequirement "Rust") ∧
        (@publishRequest .canonical firstTarget
          (strippedContent (oneRequirement "Rust"))).modelDump.encodedSize ≤
            maxDossierInputBytes :=
  @publishesAsSaved_iff .canonical (oneRequirement "Rust") (oneRequirement "Rust")
    (by decide +kernel)
    ⟨by decide +kernel, by decide +kernel, by decide +kernel⟩ firstTarget

/-- A byte order mark in front of a requirement: the browser trims it, and the saved draft
keeps it. -/
theorem byteOrderMark_differs :
    let draft := oneRequirement "\uFEFFRust"
    @ApplicationDossierDraftContent.read .canonical draft = .ok draft ∧
      EditorAccepts (formFromDraft draft) ∧ ¬@PublishesAsSaved .canonical firstTarget draft := by
  refine ⟨by decide +kernel, ⟨by decide +kernel, by decide +kernel, by decide +kernel⟩, ?_⟩
  rintro ⟨request, read, same⟩
  have saved : ((publishableDraftContent (@ApplicationDossierDraftContent.read .canonical
      (oneRequirement "\uFEFFRust")).toOption).toOption.map fun content =>
        content.requirementMatrix.map DossierRequirementEvidence.requirement) =
      some ["\uFEFFRust"] := by decide +kernel
  have requested : ((@ApplicationDossierCreate.read .canonical
      (@publishRequest .canonical firstTarget (publishContent (draftContent
        (formFromDraft (oneRequirement "\uFEFFRust")))))).toOption.map fun request =>
        request.content.requirementMatrix.map DossierRequirementEvidence.requirement) =
      some ["Rust"] := by decide +kernel
  rw [same] at saved
  rw [read] at requested
  have differ := Option.some.inj (saved.symm.trans requested)
  revert differ
  decide

end CareerOS
