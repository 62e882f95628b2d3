/-
This file is the readiness report of an application as a Markdown document: a list of
facts about the report and a table with one row for each check. Texts of the owner go
through one helper that puts them on one line and escapes the marks of Markdown. The
document is one text, and a reader finds its lines and its cells again: they are the
ones that were written, whatever the texts hold.
-/

import CareerOS.Library.Numerals

namespace CareerOS

open Text

/-! ### The report -/

/-- `ReadinessCheckStatus`. -/
inductive ReadinessCheckStatus
  | pass
  | warning
  | blocker
  deriving DecidableEq

/-- `check.status.title()`. -/
def ReadinessCheckStatus.title : ReadinessCheckStatus → String
  | .pass => "Pass"
  | .warning => "Warning"
  | .blocker => "Blocker"

/-- `ReadinessReportStatus`. -/
inductive ReadinessReportStatus
  | ready
  | actionNeeded
  | blocked
  deriving DecidableEq

/-- `report.status.replace("_", " ").title()`. -/
def ReadinessReportStatus.title : ReadinessReportStatus → String
  | .ready => "Ready"
  | .actionNeeded => "Action Needed"
  | .blocked => "Blocked"

/-- `ReadinessEvidence`. -/
structure ReadinessEvidence where
  key : String
  value : String

/-- `ApplicationReadinessCheck`. -/
structure ApplicationReadinessCheck where
  id : String
  status : ReadinessCheckStatus
  pointsAwarded : Nat
  pointsAvailable : Nat
  evidence : List ReadinessEvidence
  action : Option String

/-- `ApplicationReadinessReport`. -/
structure ApplicationReadinessReport where
  applicationRevision : Nat
  roleTitle : String
  company : String
  status : ReadinessReportStatus
  completenessScore : Nat
  checks : List ApplicationReadinessCheck
  fingerprint : String
  fingerprintHex : ∀ letter ∈ fingerprint.toList, letter ∈ "0123456789abcdef".toList

/-! ### The document -/

/-- `CHECK_TITLES`. -/
def checkTitles : List (String × String) :=
  [("role_identity", "Role identity"), ("role_description", "Role description"),
    ("application_route", "Application route"), ("career_profile", "Career profile"),
    ("resume_linked", "Published resume"), ("resume_artifacts", "Resume files"),
    ("resume_quality", "Resume validation"), ("resume_freshness", "Profile freshness"),
    ("fact_verification", "Resume evidence")]

/-- `ACTION_TEXT`. -/
def actionText : List (String × String) :=
  [("capture_role_identity", "Add both the role title and company."),
    ("capture_role_description",
      "Capture enough of the role description to prepare against it."),
    ("capture_application_route", "Add an application URL, source URL or application email."),
    ("complete_career_profile", "Create a career profile before preparing this application."),
    ("strengthen_career_profile", "Complete the missing profile sections and evidence."),
    ("link_published_resume", "Link an owned published resume version to this application."),
    ("export_resume_files", "Publish both PDF and DOCX resume artifacts."),
    ("republish_resume_artifacts",
      "Republish the resume to restore verified local PDF and DOCX files."),
    ("republish_valid_resume", "Publish a resume that passes local document validation."),
    ("refresh_resume", "Publish a resume from the current profile revision."),
    ("verify_resume_facts", "Use confirmed career facts in the published resume.")]

/-- `EVIDENCE_LABELS`. -/
def evidenceLabels : List (String × String) :=
  [("title_present", "Title present"), ("company_present", "Company present"),
    ("description_characters", "Description characters"),
    ("minimum_characters", "Minimum characters"), ("route_types", "Available routes"),
    ("profile_revision", "Profile revision"), ("profile_completeness", "Profile completeness"),
    ("resume_version", "Resume version"), ("recorded_formats", "Recorded formats"),
    ("verified_formats", "Verified local formats"),
    ("unavailable_formats", "Unavailable formats"), ("quality_passed", "Quality report passed"),
    ("renderer_version", "Renderer version"),
    ("resume_profile_revision", "Resume profile revision"),
    ("current_profile_revision", "Current profile revision"),
    ("selected_facts", "Selected facts"), ("verified_facts", "Verified in published snapshot")]

/-- `html.escape(text, quote=False)`. -/
def htmlEscape (letters : List Char) : List Char :=
  replaceAll ">" "&gt;" (replaceAll "<" "&lt;" (replaceAll "&" "&amp;" letters))

/-- The marks of Markdown that are escaped. -/
def markdownMarks : List Char := "\\`*_\x7b\x7d[]()#+!|~".toList

/-- A backslash before every mark of Markdown. -/
def escapeMarks (letters : List Char) : List Char :=
  letters.flatMap fun letter => if markdownMarks.contains letter then ['\\', letter] else [letter]

/-- `_markdown`. -/
def markdown (value : String) : String :=
  String.ofList (escapeMarks (htmlEscape (stripList (collapse isSpace ' ' value.toList))))

/-- The text of the evidence of a check. -/
def evidenceText (check : ApplicationReadinessCheck) : String :=
  "; ".intercalate (check.evidence.map fun item =>
    (evidenceLabels.lookup item.key).getD item.key ++ ": " ++ item.value)

/-- The cells of a check. -/
def checkCells (check : ApplicationReadinessCheck) : List String :=
  [markdown ((checkTitles.lookup check.id).getD check.id),
    check.status.title,
    toString check.pointsAwarded ++ "/" ++ toString check.pointsAvailable,
    markdown (evidenceText check),
    markdown ((actionText.lookup (check.action.getD "")).getD "None")]

/-- The row of a table with the cells. -/
def tableRow (cells : List String) : String := "| " ++ " | ".intercalate cells ++ " |"

/-- The first row of the table. -/
def tableHeader : String := tableRow ["Check", "State", "Points", "Evidence", "Next action"]

/-- The lines of the document. -/
def canonicalLines (report : ApplicationReadinessReport) : List String :=
  ["# CareerOS Application Readiness Pack",
    "",
    "> This is a preflight completeness index, not a hiring probability or a rating of the " ++
      "candidate.",
    "",
    "- Role: " ++ markdown report.roleTitle,
    "- Company: " ++ markdown report.company,
    "- Application revision: " ++ toString report.applicationRevision,
    "- Readiness: " ++ report.status.title,
    "- Completeness: " ++ toString report.completenessScore ++ "/100",
    "- Report fingerprint: `" ++ report.fingerprint ++ "`",
    "",
    tableHeader,
    "| --- | --- | ---: | --- | --- |"] ++
  report.checks.map (fun check => tableRow (checkCells check)) ++
  ["",
    "All checks were calculated from records in the local CareerOS vault. No model or external " ++
      "network service was used.",
    ""]

/-- `canonical_markdown`. -/
def canonicalMarkdown (report : ApplicationReadinessReport) : String :=
  "\n".intercalate (canonicalLines report)

/-! ### What a reader finds -/

/-- What a line of a document opens. -/
inductive LineKind
  | heading
  | quote
  | item
  | row
  | blank
  | paragraph
  | other
  deriving DecidableEq

/-- The kind of a line, by how it starts. -/
def lineKind : List Char → LineKind
  | [] => .blank
  | '#' :: _ => .heading
  | '>' :: _ => .quote
  | '-' :: ' ' :: _ => .item
  | '|' :: _ => .row
  | letter :: _ => if letter.isAlpha then .paragraph else .other

/-- The cell separators of a line; a character after a backslash is escaped. -/
def separators : List Char → Nat
  | [] => 0
  | '\\' :: _ :: rest => separators rest
  | '|' :: rest => separators rest + 1
  | _ :: rest => separators rest

/-- The kinds of the lines of a document with so many checks. -/
def documentKinds (checks : Nat) : List LineKind :=
  [.heading, .blank, .quote, .blank] ++ List.replicate 6 .item ++ [.blank, .row, .row] ++
    List.replicate checks .row ++ [.blank, .paragraph, .blank]

/-! ### White space -/

/-- A text on one line, with no white space but blanks. -/
def OnLine (letters : List Char) : Prop := ∀ letter ∈ letters, isSpace letter = true → letter = ' '

theorem OnLine.append {first second : List Char} (one : OnLine first) (two : OnLine second) :
    OnLine (first ++ second) := fun letter member =>
  (List.mem_append.mp member).elim (one letter) (two letter)

variable {letters : List Char}

theorem onLine_of_all
    (plain : letters.all (fun letter => !isSpace letter || letter == ' ') = true) :
    OnLine letters := by
  intro letter member space
  have here := List.all_eq_true.mp plain letter member
  rw [space] at here
  exact eq_of_beq here

theorem mem_replaceFrom {old new letters : List Char} {skip : Nat} {letter : Char}
    (member : letter ∈ replaceFrom old new skip letters) : letter ∈ new ∨ letter ∈ letters := by
  induction letters generalizing skip with
  | nil =>
    rw [replaceFrom] at member
    cases member
  | cons first rest inductionHypothesis =>
    cases skip with
    | succ skip => exact (inductionHypothesis member).imp_right (List.mem_cons_of_mem _)
    | zero =>
      rw [replaceFrom] at member
      split at member
      · rcases List.mem_append.mp member with fresh | later
        · exact .inl fresh
        · exact (inductionHypothesis later).imp_right (List.mem_cons_of_mem _)
      · rcases List.mem_cons.mp member with rfl | later
        · exact .inr List.mem_cons_self
        · exact (inductionHypothesis later).imp_right (List.mem_cons_of_mem _)

theorem OnLine.replaceAll {old new : String} (line : OnLine letters)
    (plain : OnLine new.toList) : OnLine (replaceAll old new letters) := fun letter member =>
  (mem_replaceFrom member).elim (plain letter) (line letter)

theorem OnLine.escapeMarks (line : OnLine letters) :
    OnLine (escapeMarks letters) := by
  intro letter member space
  obtain ⟨first, inside, among⟩ := List.mem_flatMap.mp member
  split at among
  · rcases List.mem_cons.mp among with rfl | same
    · revert space
      decide
    · obtain rfl := List.mem_singleton.mp same
      exact line letter inside space
  · obtain rfl := List.mem_singleton.mp among
    exact line letter inside space

/-- An escaped text is on one line. -/
theorem onLine_markdown (value : String) : OnLine (markdown value).toList := by
  rw [markdown, String.toList_ofList]
  have clean : OnLine (stripList (collapse isSpace ' ' value.toList)) := by
    intro letter member space
    have inside := (List.dropWhile_suffix _).subset ((List.rdropWhile_prefix _ _).subset member)
    refine (mem_collapseFrom inside).resolve_right fun solid => ?_
    rw [solid.2] at space
    cases space
  exact (((clean.replaceAll (onLine_of_all rfl)).replaceAll (onLine_of_all rfl)).replaceAll
    (onLine_of_all rfl)).escapeMarks

theorem isDigit_of_isSpace {letter : Char} (space : isSpace letter = true) :
    letter.isDigit = false := by
  by_contra digit
  have digit := Bool.eq_true_of_not_eq_false digit
  simp only [Char.isDigit, Bool.and_eq_true, decide_eq_true_eq] at digit
  simp only [isSpace, Bool.or_eq_true, Bool.and_eq_true, decide_eq_true_eq, beq_iff_eq] at space
  have low : 48 ≤ letter.toNat := digit.1
  have high : letter.toNat ≤ 57 := digit.2
  omega

theorem onLine_toString (count : Nat) : OnLine (toString count).toList := fun _ member space =>
  absurd member (not_mem_digits (isDigit_of_isSpace space) count)

theorem onLine_intercalate {mark : String} {texts : List String} (line : OnLine mark.toList)
    (lines : ∀ text ∈ texts, OnLine text.toList) : OnLine (mark.intercalate texts).toList := by
  induction texts with
  | nil => exact fun _ member => by cases member
  | cons first rest inductionHypothesis =>
    have later := inductionHypothesis fun text member => lines text (List.mem_cons_of_mem _ member)
    cases rest with
    | nil =>
      rw [String.intercalate_singleton]
      exact lines first List.mem_cons_self
    | cons second rest =>
      rw [String.intercalate_cons_cons, String.toList_append, String.toList_append]
      exact ((lines first List.mem_cons_self).append line).append later

theorem onLine_checkCells (check : ApplicationReadinessCheck) :
    ∀ cell ∈ checkCells check, OnLine cell.toList := by
  simp only [checkCells, List.forall_mem_cons, String.toList_append]
  refine ⟨onLine_markdown _, ?_, ?_, onLine_markdown _, onLine_markdown _, nofun⟩
  · cases check.status <;> exact onLine_of_all rfl
  · exact ((onLine_toString _).append (onLine_of_all rfl)).append (onLine_toString _)

theorem onLine_tableRow {cells : List String} (lines : ∀ cell ∈ cells, OnLine cell.toList) :
    OnLine (tableRow cells).toList := by
  simp only [tableRow, String.toList_append]
  exact ((onLine_of_all rfl).append (onLine_intercalate (onLine_of_all rfl) lines)).append
    (onLine_of_all rfl)

theorem onLine_canonicalLines (report : ApplicationReadinessReport) :
    ∀ line ∈ canonicalLines report, OnLine line.toList := by
  have hexPlain : "0123456789abcdef".toList.all (fun letter => !isSpace letter) = true := rfl
  have fingerprint : OnLine report.fingerprint.toList := fun letter member space => by
    have solid := List.all_eq_true.mp hexPlain letter (report.fingerprintHex letter member)
    rw [space] at solid
    cases solid
  have status : OnLine report.status.title.toList := by
    cases report.status <;> exact onLine_of_all rfl
  simp only [canonicalLines, List.forall_mem_append, List.forall_mem_cons, List.forall_mem_map,
    String.toList_append]
  refine ⟨⟨⟨onLine_of_all rfl, onLine_of_all rfl, onLine_of_all rfl, onLine_of_all rfl,
    (onLine_of_all rfl).append (onLine_markdown _), (onLine_of_all rfl).append (onLine_markdown _),
    (onLine_of_all rfl).append (onLine_toString _), (onLine_of_all rfl).append status,
    ((onLine_of_all rfl).append (onLine_toString _)).append (onLine_of_all rfl),
    ((onLine_of_all rfl).append fingerprint).append (onLine_of_all rfl), onLine_of_all rfl,
    onLine_of_all rfl, onLine_of_all rfl, nofun⟩,
    fun check _ => onLine_tableRow (onLine_checkCells check)⟩,
    onLine_of_all rfl, onLine_of_all rfl, onLine_of_all rfl, nofun⟩

/-! ### Cell separators -/

/-- A text that holds no separator, wherever it stands. -/
def Neutral (letters : List Char) : Prop :=
  ∀ rest, separators (letters ++ rest) = separators rest

theorem Neutral.append {first second : List Char} (one : Neutral first) (two : Neutral second) :
    Neutral (first ++ second) := fun rest => by rw [List.append_assoc, one, two]

theorem separators_cons {letter : Char} (noEscape : letter ≠ '\\') (noBar : letter ≠ '|')
    (rest : List Char) : separators (letter :: rest) = separators rest := by
  rw [separators]
  · exact fun _ _ same _ => noEscape same
  · exact noBar

theorem neutral_of_plain
    (plain : ∀ letter ∈ letters, letter ≠ '\\' ∧ letter ≠ '|') : Neutral letters := by
  intro rest
  induction letters with
  | nil => rfl
  | cons first later inductionHypothesis =>
    obtain ⟨⟨noEscape, noBar⟩, plain⟩ := List.forall_mem_cons.mp plain
    rw [List.cons_append, separators_cons noEscape noBar, inductionHypothesis plain]

/-- An escaped mark is no separator, and neither is what follows it. -/
theorem neutral_escapeMarks (letters : List Char) : Neutral (escapeMarks letters) := by
  intro rest
  induction letters with
  | nil => rfl
  | cons first later inductionHypothesis =>
    rw [escapeMarks, List.flatMap_cons, List.append_assoc]
    split
    · exact inductionHypothesis
    · rename_i plain
      refine (separators_cons ?_ ?_ _).trans inductionHypothesis
      · rintro rfl
        exact plain rfl
      · rintro rfl
        exact plain rfl

theorem neutral_markdown (value : String) : Neutral (markdown value).toList := by
  rw [markdown, String.toList_ofList]
  exact neutral_escapeMarks _

theorem neutral_checkCells (check : ApplicationReadinessCheck) :
    ∀ cell ∈ checkCells check, Neutral cell.toList := by
  have digits (count : Nat) : Neutral (toString count).toList := neutral_of_plain fun _ member =>
    ⟨by rintro rfl; exact not_mem_digits rfl count member,
      by rintro rfl; exact not_mem_digits rfl count member⟩
  simp only [checkCells, List.forall_mem_cons, String.toList_append]
  refine ⟨neutral_markdown _, ?_, ?_, neutral_markdown _, neutral_markdown _, nofun⟩
  · cases check.status <;> exact fun _ => rfl
  · exact ((digits _).append fun _ => rfl).append (digits _)

/-- A row of cells without separators has one before each of them and one at the end. -/
theorem separators_tableRow {first : String} {cells : List String}
    (neutral : ∀ cell ∈ first :: cells, Neutral cell.toList) :
    separators (tableRow (first :: cells)).toList = cells.length + 2 := by
  have inner (rest : List Char) :
      separators ((" | ".intercalate (first :: cells)).toList ++ rest) =
        cells.length + separators rest := by
    induction cells generalizing first with
    | nil =>
      rw [String.intercalate_singleton, neutral first List.mem_cons_self, List.length_nil,
        Nat.zero_add]
    | cons second later inductionHypothesis =>
      obtain ⟨here, others⟩ := List.forall_mem_cons.mp neutral
      rw [String.intercalate_cons_cons, String.toList_append, String.toList_append,
        List.append_assoc, List.append_assoc, here]
      show separators ((" | ".intercalate (second :: later)).toList ++ rest) + 1 = _
      rw [inductionHypothesis others, List.length_cons]
      omega
  rw [tableRow, String.toList_append, String.toList_append, List.append_assoc]
  show separators ((" | ".intercalate (first :: cells)).toList ++ " |".toList) + 1 = _
  rw [inner]
  rfl

/-! ### The document as a whole -/

/-- The lines of the document are those that were written, each check has its row among them with
as many separators as the header, no line holds a line break of any script, and what each line opens
depends on nothing but the number of the checks. -/
theorem canonical_markdown (report : ApplicationReadinessReport) :
    (canonicalMarkdown report).toList.splitOn '\n' =
        (canonicalLines report).map String.toList ∧
      (∀ check ∈ report.checks,
        separators (tableRow (checkCells check)).toList = separators tableHeader.toList) ∧
      (∀ line ∈ canonicalLines report, OnLine line.toList) ∧
      (canonicalLines report).map (fun line => lineKind line.toList) =
        documentKinds report.checks.length := by
  refine ⟨?_, fun check _ => ?_, onLine_canonicalLines report, ?_⟩
  · rw [canonicalMarkdown, String.toList_intercalate]
    refine List.splitOn_intercalate '\n' (fun line member inside => ?_)
      (mt List.map_eq_nil_iff.mp (List.cons_ne_nil _ _))
    obtain ⟨text, among, rfl⟩ := List.mem_map.mp member
    exact absurd (onLine_canonicalLines report text among '\n' inside rfl) (by decide)
  · exact separators_tableRow (neutral_checkCells check)
  · have rows : report.checks.map (fun check => lineKind (tableRow (checkCells check)).toList) =
        List.replicate report.checks.length .row := by
      rw [← List.map_const']
      refine List.map_congr_left fun check _ => ?_
      rw [tableRow, String.toList_append, String.toList_append]
      rfl
    simp only [canonicalLines, List.map_append, List.map_map, Function.comp_def, rows,
      List.map_cons, List.map_nil, String.toList_append]
    rfl

end CareerOS
