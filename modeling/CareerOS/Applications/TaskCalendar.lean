/-
This file is the export of the pending tasks of an application as a calendar. What the
owner wrote goes into three kinds of values: the name of the calendar, the summary of a
task and the descriptions. A value has its separators escaped and its carriage returns
taken out, and no other letter of it can end a line, so a reader finds the properties of
the exporter and no others, with the texts that were written.
-/

import CareerOS.Applications.Tasks
import CareerOS.Library.ContentLines
import CareerOS.Library.Outcome

namespace CareerOS

open ContentLines

def maxCalendarTasks : Nat := 2000
def maxCalendarBytes : Nat := 2 * 1024 * 1024

/-- `_ics_escape`. -/
def icsEscape (value : String) : List Char :=
  Text.replaceAll "\n" "\\n" (Text.replaceAll "\r" "" (Text.replaceAll "," "\\,"
    (Text.replaceAll ";" "\\;" (Text.replaceAll "\\" "\\\\" value.toList))))

/-- `_ics_timestamp`. -/
def icsTimestamp (value : DateTime) : List Char :=
  DateTime.four value.year ++ DateTime.two value.month ++ DateTime.two value.day ++ 'T' ::
    DateTime.two value.hour ++ DateTime.two value.minute ++ DateTime.two value.second ++ ['Z']

/-- `_fold_ics_line`. -/
def foldIcsLine (line : List Char) : List Char := (crlf ++ [' ']).intercalate (pieces line)

/-- The days up to a date, counted from the first day of the year one. -/
def ordinalDay (year month day : Nat) : Nat :=
  (year - 1) * 365 + (year - 1) / 4 - (year - 1) / 100 + (year - 1) / 400 +
    ((List.range' 1 (month - 1)).map (daysInMonth year)).sum + day

/-- The microseconds of a moment on one scale. -/
def microsecondsOf (moment : DateTime) : Nat :=
  (((ordinalDay moment.year moment.month moment.day * 24 + moment.hour) * 60 + moment.minute) * 60 +
    moment.second) * 1000000 + moment.microsecond

/-- `max(0, int((due_at - reminder_at).total_seconds()))`. -/
def leadSeconds (dueAt reminderAt : DateTime) : Nat :=
  (microsecondsOf dueAt - microsecondsOf reminderAt) / 1000000

/-- `task.priority.upper()`. -/
def TaskPriority.upper : TaskPriority → String
  | .low => "LOW"
  | .normal => "NORMAL"
  | .high => "HIGH"
  | .urgent => "URGENT"

/-! ### The export -/

/-- The lines before the events. -/
def calendarHeader (roleTitle company : String) : List (List Char) := [
  property "BEGIN" "VCALENDAR".toList,
  property "VERSION" "2.0".toList,
  property "PRODID" "-//CareerOS Local//Application Tasks 1.0//EN".toList,
  property "CALSCALE" "GREGORIAN".toList,
  property "METHOD" "PUBLISH".toList,
  property "X-WR-CALNAME" (icsEscape roleTitle ++ " · ".toList ++ icsEscape company)]

/-- The lines of the alarm of a task. -/
def alarmLines (task : TaskResponse) (dueAt reminderAt : DateTime) : List (List Char) := [
  property "BEGIN" "VALARM".toList,
  property "TRIGGER"
    ("-PT".toList ++ (leadSeconds dueAt reminderAt).repr.toList ++ "S".toList),
  property "ACTION" "DISPLAY".toList,
  property "DESCRIPTION" (icsEscape task.title),
  property "END" "VALARM".toList]

/-- The lines of a task that is due. -/
def eventLines (roleTitle company : String) (task : TaskResponse) (dueAt : DateTime) :
    List (List Char) :=
  [property "BEGIN" "VEVENT".toList,
    property "UID" (icsEscape task.id ++ "@careeros.local".toList),
    property "DTSTAMP" (icsTimestamp task.updatedAt),
    property "DTSTART" (icsTimestamp dueAt),
    property "SUMMARY" (icsEscape task.title),
    property "DESCRIPTION" (icsEscape roleTitle ++ " at ".toList ++ icsEscape company),
    property "CATEGORIES" ("CAREEROS,".toList ++ task.priority.upper.toList)] ++
  (match task.reminderAt with
    | some reminderAt => alarmLines task dueAt reminderAt
    | none => []) ++
  [property "END" "VEVENT".toList]

/-- The loop over the tasks, with the identifiers of the events so far. -/
def exportEvents (roleTitle company : String) (eventIds : List String) :
    List TaskResponse → Except String (List (List Char))
  | [] => .ok []
  | task :: rest =>
    match task.status, task.dueAt with
    | .pending, some dueAt => do
      refuseWhen (task.id ∈ eventIds) "Calendar export contains a duplicate task identifier"
      let lines ← exportEvents roleTitle company (task.id :: eventIds) rest
      return eventLines roleTitle company task dueAt ++ lines
    | _, _ => exportEvents roleTitle company eventIds rest

/-- `export_task_calendar`, as the text that is encoded. -/
def exportTaskCalendar (roleTitle company : String) (tasks : List TaskResponse) :
    Except String (List Char) := do
  refuseWhen (maxCalendarTasks < tasks.length)
    "Calendar export cannot contain more than 2000 tasks"
  let events ← exportEvents roleTitle company [] tasks
  let lines := calendarHeader roleTitle company ++ events ++ [property "END" "VCALENDAR".toList]
  let result := crlf.intercalate (lines.map foldIcsLine) ++ crlf
  refuseWhen (maxCalendarBytes < octets result)
    "Calendar export exceeds the 2097152-byte limit"
  return result

/-! ### What a calendar says -/

/-- The pending tasks that are due, with the moment. -/
def datedTasks (tasks : List TaskResponse) : List (TaskResponse × DateTime) :=
  tasks.filterMap fun task =>
    if task.status = .pending then task.dueAt.map fun dueAt => (task, dueAt) else none

/-- The content lines of a calendar. -/
def contentLines (roleTitle company : String) (tasks : List TaskResponse) : List (List Char) :=
  calendarHeader roleTitle company ++
    (datedTasks tasks).flatMap (fun event => eventLines roleTitle company event.1 event.2) ++
    [property "END" "VCALENDAR".toList]

/-- A text as the exporter takes it over: without carriage returns. -/
def withoutReturns (text : String) : String := String.ofList (text.toList.filter (· ≠ '\r'))

/-- The properties of a task. -/
def eventProperties (roleTitle company : String) (task : TaskResponse) (dueAt : DateTime) :
    List (String × String) :=
  [("BEGIN", "VEVENT"),
    ("UID", withoutReturns task.id ++ "@careeros.local"),
    ("DTSTAMP", String.ofList (icsTimestamp task.updatedAt)),
    ("DTSTART", String.ofList (icsTimestamp dueAt)),
    ("SUMMARY", withoutReturns task.title),
    ("DESCRIPTION", withoutReturns roleTitle ++ " at " ++ withoutReturns company),
    ("CATEGORIES", "CAREEROS," ++ task.priority.upper)] ++
  (match task.reminderAt with
    | some reminderAt => [
        ("BEGIN", "VALARM"),
        ("TRIGGER", "-PT" ++ (leadSeconds dueAt reminderAt).repr ++ "S"),
        ("ACTION", "DISPLAY"),
        ("DESCRIPTION", withoutReturns task.title),
        ("END", "VALARM")]
    | none => []) ++
  [("END", "VEVENT")]

/-- The properties of a calendar, with the texts that were written. -/
def calendarProperties (roleTitle company : String) (tasks : List TaskResponse) :
    List (String × String) :=
  [("BEGIN", "VCALENDAR"),
    ("VERSION", "2.0"),
    ("PRODID", "-//CareerOS Local//Application Tasks 1.0//EN"),
    ("CALSCALE", "GREGORIAN"),
    ("METHOD", "PUBLISH"),
    ("X-WR-CALNAME", withoutReturns roleTitle ++ " · " ++ withoutReturns company)] ++
  (datedTasks tasks).flatMap (fun event => eventProperties roleTitle company event.1 event.2) ++
  [("END", "VCALENDAR")]

/-- The names of the properties of a task, by whether it has a reminder. -/
def eventPropertyNames (reminds : Bool) : List String :=
  ["BEGIN", "UID", "DTSTAMP", "DTSTART", "SUMMARY", "DESCRIPTION", "CATEGORIES"] ++
    (if reminds then ["BEGIN", "TRIGGER", "ACTION", "DESCRIPTION", "END"] else []) ++ ["END"]

/-- The names of the properties of a calendar, by which of its tasks have a reminder. -/
def calendarPropertyNames (reminds : List Bool) : List String :=
  ["BEGIN", "VERSION", "PRODID", "CALSCALE", "METHOD", "X-WR-CALNAME"] ++
    reminds.flatMap eventPropertyNames ++ ["END"]

/-- What a reader finds in a calendar. -/
structure CalendarReads (roleTitle company : String) (tasks : List TaskResponse)
    (text : List Char) : Prop where
  short : ∀ line ∈ physicalLines text, octets line ≤ 75
  unfolds : unfolded (physicalLines text) = contentLines roleTitle company tasks
  unbroken : ∀ line ∈ contentLines roleTitle company tasks, '\r' ∉ line ∧ '\n' ∉ line
  /-- Which properties there are does not depend on any text. -/
  names : (unfolded (physicalLines text)).map (fun line => (readProperty line).1) =
    calendarPropertyNames ((datedTasks tasks).map fun event => event.1.reminderAt.isSome)
  texts : (unfolded (physicalLines text)).map readProperty =
    calendarProperties roleTitle company tasks

/-! ### Escaping -/

/-- What becomes of a letter. -/
def escapeLetter (letter : Char) : List Char :=
  if letter = '\\' then ['\\', '\\']
  else if letter = ';' then ['\\', ';']
  else if letter = ',' then ['\\', ',']
  else if letter = '\r' then []
  else if letter = '\n' then ['\\', 'n']
  else [letter]

/-- Replacing one letter. -/
theorem replaceAll_letter (old : Char) (new : String) (letters : List Char) :
    Text.replaceAll (String.singleton old) new letters =
      letters.flatMap fun letter => if letter = old then new.toList else [letter] := by
  unfold Text.replaceAll
  rw [String.toList_singleton]
  induction letters with
  | nil => rfl
  | cons letter rest inductionHypothesis =>
    rw [Text.replaceFrom, List.flatMap_cons]
    by_cases same : letter = old
    · subst same
      simp only [List.isPrefixOf, beq_self_eq_true, Bool.true_and, if_true, List.length_singleton,
        Nat.sub_self]
      rw [inductionHypothesis]
    · have other : ¬([old].isPrefixOf (letter :: rest) = true) := by
        simpa [List.isPrefixOf] using Ne.symm same
      rw [if_neg other, if_neg same, inductionHypothesis]
      rfl

/-- The letters are escaped one by one. -/
theorem icsEscape_eq (value : String) : icsEscape value = value.toList.flatMap escapeLetter := by
  have single : "\n" = String.singleton '\n' ∧ "\r" = String.singleton '\r' ∧
      "," = String.singleton ',' ∧ ";" = String.singleton ';' ∧ "\\" = String.singleton '\\' := by
    decide
  unfold icsEscape
  rw [single.1, single.2.1, single.2.2.1, single.2.2.2.1, single.2.2.2.2]
  simp only [replaceAll_letter, List.flatMap_assoc]
  congr 1
  funext letter
  unfold escapeLetter
  split_ifs <;> simp_all

theorem mem_icsEscape {value : String} {letter : Char} (member : letter ∈ icsEscape value) :
    letter ≠ '\r' ∧ letter ≠ '\n' := by
  rw [icsEscape_eq, List.mem_flatMap] at member
  obtain ⟨source, -, inside⟩ := member
  unfold escapeLetter at inside
  split_ifs at inside <;> simp_all
  · rcases inside with rfl | rfl <;> decide
  · rcases inside with rfl | rfl <;> decide
  · rcases inside with rfl | rfl <;> decide

/-- Removing the escapes gives back the text without its carriage returns. -/
theorem unescape_icsEscape (value : String) (rest : List Char) :
    unescape (icsEscape value ++ rest) = (withoutReturns value).toList ++ unescape rest := by
  unfold withoutReturns
  rw [icsEscape_eq, String.toList_ofList]
  induction value.toList with
  | nil => rfl
  | cons letter letters inductionHypothesis =>
    rw [List.flatMap_cons, List.append_assoc, escapeLetter]
    split_ifs with isBackslash isSemicolon isComma isReturn isEnd
    · subst isBackslash
      show '\\' :: unescape (letters.flatMap escapeLetter ++ rest) = _
      rw [inductionHypothesis]
      rfl
    · subst isSemicolon
      show ';' :: unescape (letters.flatMap escapeLetter ++ rest) = _
      rw [inductionHypothesis]
      rfl
    · subst isComma
      show ',' :: unescape (letters.flatMap escapeLetter ++ rest) = _
      rw [inductionHypothesis]
      rfl
    · subst isReturn
      rw [List.nil_append, inductionHypothesis]
      rfl
    · subst isEnd
      show '\n' :: unescape (letters.flatMap escapeLetter ++ rest) = _
      rw [inductionHypothesis]
      rfl
    · have kept : (letter :: letters).filter (fun letter => decide (letter ≠ '\r')) =
          letter :: letters.filter fun letter => decide (letter ≠ '\r') :=
        List.filter_cons_of_pos (decide_eq_true isReturn)
      rw [List.singleton_append, unescape_plain isBackslash, inductionHypothesis, kept]
      rfl

/-! ### The other values -/

/-- No letter that ends a line or is an escape. -/
def QuietValue (letters : List Char) : Prop :=
  ∀ letter ∈ letters, letter ≠ '\\' ∧ letter ≠ '\r' ∧ letter ≠ '\n'

instance (letters : List Char) : Decidable (QuietValue letters) :=
  List.decidableBAll _ letters

theorem QuietValue.append {first second : List Char} (quietFirst : QuietValue first)
    (quietSecond : QuietValue second) : QuietValue (first ++ second) :=
  List.forall_mem_append.mpr ⟨quietFirst, quietSecond⟩

variable {letters : List Char}

theorem QuietValue.noBackslash (quiet : QuietValue letters) : '\\' ∉ letters :=
  fun member => (quiet _ member).1 rfl

theorem quiet_digits (digits : ∀ letter ∈ letters, letter.isDigit = true) :
    QuietValue letters := by
  intro letter member
  have isDigit := digits letter member
  refine ⟨?_, ?_, ?_⟩ <;> rintro rfl <;> exact absurd isDigit (by decide)

theorem isDigit_digit (value : Nat) : (DateTime.digit (value % 10)).isDigit = true := by
  have small : value % 10 < 10 := Nat.mod_lt _ (by decide)
  have each : ∀ digit < 10, (DateTime.digit digit).isDigit = true := by decide
  exact each _ small

theorem quiet_two (value : Nat) : QuietValue (DateTime.two value) :=
  quiet_digits (by simp [DateTime.two, isDigit_digit])

theorem quiet_four (value : Nat) : QuietValue (DateTime.four value) :=
  quiet_digits (by simp [DateTime.four, isDigit_digit])

theorem quiet_icsTimestamp (value : DateTime) : QuietValue (icsTimestamp value) := by
  have mark : QuietValue ['T'] ∧ QuietValue ['Z'] := by decide
  have date := ((quiet_four value.year).append (quiet_two value.month)).append (quiet_two value.day)
  have time := (((quiet_two value.hour).append (quiet_two value.minute)).append
    (quiet_two value.second)).append mark.2
  have whole := date.append (mark.1.append time)
  simpa only [icsTimestamp, List.singleton_append, List.append_assoc, List.cons_append,
    List.nil_append] using whole

theorem quiet_repr (number : Nat) : QuietValue number.repr.toList := by
  refine quiet_digits fun letter member => ?_
  rw [Nat.repr, String.toList_ofList] at member
  exact Nat.isDigit_of_mem_toDigits (by decide) (by decide) member

theorem quiet_upper (priority : TaskPriority) : QuietValue priority.upper.toList := by
  cases priority <;> decide

/-! ### The lines -/

/-- A value that ends no line. -/
def Unbroken (letters : List Char) : Prop := '\r' ∉ letters ∧ '\n' ∉ letters

theorem QuietValue.unbroken (quiet : QuietValue letters) : Unbroken letters :=
  ⟨fun member => (quiet _ member).2.1 rfl, fun member => (quiet _ member).2.2 rfl⟩

theorem unbroken_icsEscape (value : String) : Unbroken (icsEscape value) :=
  ⟨fun member => (mem_icsEscape member).1 rfl, fun member => (mem_icsEscape member).2 rfl⟩

theorem Unbroken.append {first second : List Char} (unbrokenFirst : Unbroken first)
    (unbrokenSecond : Unbroken second) : Unbroken (first ++ second) :=
  ⟨fun member => (List.mem_append.mp member).elim unbrokenFirst.1 unbrokenSecond.1,
    fun member => (List.mem_append.mp member).elim unbrokenFirst.2 unbrokenSecond.2⟩

variable {value : List Char}

theorem unbroken_property {name : String} (quiet : QuietValue name.toList)
    (unbroken : Unbroken value) : Unbroken (property name value) := by
  have colon : QuietValue [':'] := by decide
  exact quiet.unbroken.append (colon.unbroken.append unbroken)

/-- A line of a calendar: it ends no line, begins with no space and is read as its property. -/
structure Says (line : List Char) (name text : String) : Prop where
  unbroken : Unbroken line
  begins : Begins line
  reads : readProperty line = (name, text)

/-- A name of a property. -/
def PropertyName (name : String) : Prop :=
  QuietValue name.toList ∧ ':' ∉ name.toList ∧ name.toList.head?.any (· ≠ ' ') = true

instance (name : String) : Decidable (PropertyName name) := by
  unfold PropertyName
  infer_instance

theorem says_property {name : String} (isName : PropertyName name)
    {text : String} (unbroken : Unbroken value) (reads : unescape value = text.toList) :
    Says (property name value) name text where
  unbroken := unbroken_property isName.1 unbroken
  begins := by
    obtain ⟨-, -, begin_⟩ := isName
    unfold property
    cases shape : name.toList with
    | nil =>
      rw [shape] at begin_
      cases begin_
    | cons letter rest =>
      rw [shape] at begin_
      exact ⟨letter, rest ++ ':' :: value, rfl, of_decide_eq_true begin_⟩
  reads := by rw [readProperty_property isName.2.1, reads, String.ofList_toList]

/-- A value of the exporter's own. -/
theorem says_quiet {name : String} (isName : PropertyName name)
    (quiet : QuietValue value) : Says (property name value) name (String.ofList value) :=
  says_property isName quiet.unbroken
    (by rw [unescape_eq_self quiet.noBackslash, String.toList_ofList])

/-- Lines that say properties, one each. -/
def SayAll (lines : List (List Char)) (properties : List (String × String)) : Prop :=
  List.Forall₂ (fun line said => Says line said.1 said.2) lines properties

theorem unescape_icsEscape_eq (value : String) :
    unescape (icsEscape value) = (withoutReturns value).toList := by
  have read := unescape_icsEscape value []
  rwa [List.append_nil, show unescape [] = [] from rfl, List.append_nil] at read

/-- Two texts with a word between them. -/
theorem unescape_between (first second : String) {word : List Char} (quiet : QuietValue word) :
    unescape (icsEscape first ++ word ++ icsEscape second) =
      (withoutReturns first ++ String.ofList word ++ withoutReturns second).toList := by
  rw [List.append_assoc, unescape_icsEscape, unescape_append quiet.noBackslash,
    unescape_icsEscape_eq, String.toList_append, String.toList_append, String.toList_ofList,
    List.append_assoc]

theorem says_alarmLines (task : TaskResponse) (dueAt reminderAt : DateTime) :
    SayAll (alarmLines task dueAt reminderAt) [
      ("BEGIN", "VALARM"),
      ("TRIGGER", "-PT" ++ (leadSeconds dueAt reminderAt).repr ++ "S"),
      ("ACTION", "DISPLAY"),
      ("DESCRIPTION", withoutReturns task.title),
      ("END", "VALARM")] := by
  have lead : QuietValue "-PT".toList := by decide
  have trigger : QuietValue
      ("-PT".toList ++ (leadSeconds dueAt reminderAt).repr.toList ++ "S".toList) :=
    (lead.append (quiet_repr _)).append (by decide)
  refine .cons (says_quiet (by decide) (by decide)) (.cons ?_
    (.cons (says_quiet (by decide) (by decide)) (.cons ?_
      (.cons (says_quiet (by decide) (by decide)) .nil))))
  · refine says_property (by decide) trigger.unbroken ?_
    rw [unescape_eq_self trigger.noBackslash, String.toList_append, String.toList_append]
  · exact says_property (by decide) (unbroken_icsEscape _) (unescape_icsEscape_eq _)

theorem says_eventLines (roleTitle company : String) (task : TaskResponse) (dueAt : DateTime) :
    SayAll (eventLines roleTitle company task dueAt)
      (eventProperties roleTitle company task dueAt) := by
  have address : QuietValue "@careeros.local".toList := by decide
  have word : QuietValue " at ".toList := by decide
  have category : QuietValue ("CAREEROS,".toList ++ task.priority.upper.toList) :=
    (show QuietValue "CAREEROS,".toList by decide).append (quiet_upper _)
  have alarm : SayAll (match task.reminderAt with
        | some reminderAt => alarmLines task dueAt reminderAt
        | none => [])
      (match task.reminderAt with
        | some reminderAt => [
            ("BEGIN", "VALARM"),
            ("TRIGGER", "-PT" ++ (leadSeconds dueAt reminderAt).repr ++ "S"),
            ("ACTION", "DISPLAY"),
            ("DESCRIPTION", withoutReturns task.title),
            ("END", "VALARM")]
        | none => []) := by
    cases task.reminderAt with
    | none => exact .nil
    | some reminderAt => exact says_alarmLines task dueAt reminderAt
  refine List.rel_append (List.rel_append ?_ alarm)
    (.cons (says_quiet (by decide) (by decide)) .nil)
  refine .cons (says_quiet (by decide) (by decide)) (.cons ?_
    (.cons (says_quiet (by decide) (quiet_icsTimestamp _))
      (.cons (says_quiet (by decide) (quiet_icsTimestamp _)) (.cons ?_ (.cons ?_ (.cons ?_ .nil))))))
  · refine says_property (by decide) ((unbroken_icsEscape _).append address.unbroken) ?_
    rw [unescape_icsEscape, unescape_eq_self address.noBackslash, String.toList_append]
  · exact says_property (by decide) (unbroken_icsEscape _) (unescape_icsEscape_eq _)
  · exact says_property (by decide)
      (((unbroken_icsEscape _).append word.unbroken).append (unbroken_icsEscape _))
      (unescape_between _ _ word)
  · refine says_property (by decide) category.unbroken ?_
    rw [unescape_eq_self category.noBackslash, String.toList_append]

/-- The content lines say the properties of the calendar. -/
theorem says_contentLines (roleTitle company : String) (tasks : List TaskResponse) :
    SayAll (contentLines roleTitle company tasks)
      (calendarProperties roleTitle company tasks) := by
  have word : QuietValue " · ".toList := by decide
  have events : SayAll
      ((datedTasks tasks).flatMap fun event => eventLines roleTitle company event.1 event.2)
      ((datedTasks tasks).flatMap fun event =>
        eventProperties roleTitle company event.1 event.2) := by
    induction datedTasks tasks with
    | nil => exact .nil
    | cons event rest inductionHypothesis =>
      exact List.rel_append (says_eventLines _ _ _ _) inductionHypothesis
  refine List.rel_append (List.rel_append ?_ events)
    (.cons (says_quiet (by decide) (by decide)) .nil)
  refine .cons (says_quiet (by decide) (by decide)) (.cons (says_quiet (by decide) (by decide))
    (.cons (says_quiet (by decide) (by decide)) (.cons (says_quiet (by decide) (by decide))
      (.cons (says_quiet (by decide) (by decide)) (.cons ?_ .nil)))))
  exact says_property (by decide)
    (((unbroken_icsEscape _).append word.unbroken).append (unbroken_icsEscape _))
    (unescape_between _ _ word)

/-! ### The file -/

variable {lines : List (List Char)}

theorem intercalate_endLines (nonempty : lines ≠ []) :
    crlf.intercalate lines ++ crlf = endLines lines := by
  induction lines with
  | nil => exact absurd rfl nonempty
  | cons line rest inductionHypothesis =>
    cases rest with
    | nil =>
      rw [List.intercalate_singleton]
      exact (List.append_nil _).symm
    | cons next rest =>
      have joined := inductionHypothesis (List.cons_ne_nil _ _)
      rw [List.intercalate_cons_cons, List.append_assoc, List.append_assoc, joined]
      unfold endLines
      simp

/-- A folded line with its end is its physical lines with theirs. -/
theorem foldIcsLine_endLines (line : List Char) :
    foldIcsLine line ++ crlf = endLines (folded line) := by
  have joined : ∀ (others : List (List Char)) (first : List Char),
      (crlf ++ [' ']).intercalate (first :: others) ++ crlf =
        endLines (continued (first :: others)) := by
    intro others
    induction others with
    | nil =>
      intro first
      rw [List.intercalate_singleton]
      exact (List.append_nil _).symm
    | cons next rest inductionHypothesis =>
      intro first
      rw [List.intercalate_cons_cons, List.append_assoc, List.append_assoc,
        inductionHypothesis next]
      unfold endLines continued
      simp
  unfold foldIcsLine folded pieces
  obtain ⟨first, others, same, -⟩ := foldFrom_spec line 75 [] (by omega) (Nat.zero_le _)
  rw [same]
  exact joined others first

theorem exportEvents_ok {roleTitle company : String} {tasks : List TaskResponse}
    {eventIds : List String}
    (exported : exportEvents roleTitle company eventIds tasks = .ok lines) :
    lines = (datedTasks tasks).flatMap fun event =>
      eventLines roleTitle company event.1 event.2 := by
  induction tasks generalizing eventIds lines with
  | nil =>
    cases exported
    rfl
  | cons task rest inductionHypothesis =>
    unfold exportEvents at exported
    unfold datedTasks
    rw [List.filterMap_cons]
    split at exported
    · rename_i dueAt isPending isDue
      simp only [bind_ok_iff, refuseWhen_ok_iff, pure_ok_iff] at exported
      obtain ⟨-, -, later, others, rfl⟩ := exported
      rw [if_pos isPending, isDue, Option.map_some, inductionHypothesis others]
      rfl
    · rename_i noEvent
      have absent : (if task.status = .pending then
          task.dueAt.map fun dueAt => (task, dueAt) else none) = none := by
        split
        · rename_i isPending
          cases isDue : task.dueAt with
          | none => rfl
          | some dueAt => exact absurd isDue (noEvent dueAt isPending)
        · rfl
      rw [absent]
      exact inductionHypothesis exported

/-- The text of a calendar is its content lines, folded. -/
theorem exportTaskCalendar_ok {roleTitle company : String} {tasks : List TaskResponse}
    {text : List Char} (exported : exportTaskCalendar roleTitle company tasks = .ok text) :
    text = endLines ((contentLines roleTitle company tasks).flatMap folded) := by
  simp only [exportTaskCalendar, bind_ok_iff, refuseWhen_ok_iff, pure_ok_iff] at exported
  obtain ⟨-, -, events, isEvents, -, -, rfl⟩ := exported
  have lines : calendarHeader roleTitle company ++ events ++ [property "END" "VCALENDAR".toList] =
      contentLines roleTitle company tasks := by
    unfold contentLines
    rw [exportEvents_ok isEvents]
  have nonempty : (contentLines roleTitle company tasks).map foldIcsLine ≠ [] := by
    simp [contentLines]
  rw [lines, intercalate_endLines nonempty]
  induction contentLines roleTitle company tasks with
  | nil => rfl
  | cons line rest inductionHypothesis =>
    unfold endLines at inductionHypothesis ⊢
    rw [List.map_cons, List.map_cons, List.flatten_cons, inductionHypothesis, List.flatMap_cons,
      List.map_append, List.flatten_append, foldIcsLine_endLines]
    rfl

/-- Every line of a calendar says its property. -/
theorem SayAll.line {properties : List (String × String)}
    (sayAll : SayAll lines properties) {line : List Char} (member : line ∈ lines) :
    Unbroken line ∧ Begins line := by
  induction sayAll with
  | nil => cases member
  | cons said _ inductionHypothesis =>
    rcases List.mem_cons.mp member with rfl | later
    · exact ⟨said.unbroken, said.begins⟩
    · exact inductionHypothesis later

theorem SayAll.read {properties : List (String × String)}
    (sayAll : SayAll lines properties) : lines.map readProperty = properties := by
  induction sayAll with
  | nil => rfl
  | cons said _ inductionHypothesis =>
    rw [List.map_cons, inductionHypothesis, said.reads]

/-- The names of the properties of a calendar. -/
theorem names_calendarProperties (roleTitle company : String) (tasks : List TaskResponse) :
    (calendarProperties roleTitle company tasks).map Prod.fst =
      calendarPropertyNames ((datedTasks tasks).map fun event => event.1.reminderAt.isSome) := by
  have each : ∀ (task : TaskResponse) (dueAt : DateTime),
      (eventProperties roleTitle company task dueAt).map Prod.fst =
        eventPropertyNames task.reminderAt.isSome := by
    intro task dueAt
    unfold eventProperties
    cases task.reminderAt <;> rfl
  unfold calendarProperties calendarPropertyNames
  rw [List.map_append, List.map_append, List.map_flatMap, List.flatMap_map]
  simp only [each]
  rfl

/-- A calendar that is exported is read as it was meant: its lines are short, unfold to the
content lines, and have the properties of the exporter with the texts of the tasks. -/
theorem calendar_reads (roleTitle company : String) (tasks : List TaskResponse)
    (text : List Char) (exported : exportTaskCalendar roleTitle company tasks = .ok text) :
    CalendarReads roleTitle company tasks text := by
  have said := says_contentLines roleTitle company tasks
  have unbroken := fun line (member : line ∈ contentLines roleTitle company tasks) =>
    (said.line member).1
  have physical : physicalLines text =
      (contentLines roleTitle company tasks).flatMap folded := by
    rw [exportTaskCalendar_ok exported]
    refine physicalLines_endLines fun line member isReturn => ?_
    obtain ⟨content, isContent, isFolded⟩ := List.mem_flatMap.mp member
    rcases mem_of_mem_folded isFolded isReturn with isSpace | inside
    · exact absurd isSpace (by decide)
    · exact (unbroken content isContent).1 inside
  have unfolds : unfolded (physicalLines text) = contentLines roleTitle company tasks := by
    rw [physical]
    exact unfolded_folded fun line member => (said.line member).2
  refine ⟨fun line member => ?_, unfolds, unbroken, ?_, ?_⟩
  · rw [physical] at member
    obtain ⟨content, -, isFolded⟩ := List.mem_flatMap.mp member
    exact octets_folded isFolded
  · rw [unfolds, ← names_calendarProperties roleTitle company, ← said.read, List.map_map]
    rfl
  · rw [unfolds]
    exact said.read

theorem canonical_interview : canonicalUuid "2c5ea4c0-4067-41fe-8dca-8f0a4e9b3c11" = true := by
  decide

/-- A task whose title has separators, an end of line and letters of two octets. -/
def interviewTask : TaskResponse where
  id := "2c5ea4c0-4067-41fe-8dca-8f0a4e9b3c11"
  title := "Gespräch; 10 Uhr,\r\nZürich \\ Bern, mit den Unterlagen für das zweite Gespräch"
  status := .pending
  priority := .high
  dueAt := some ⟨2026, 3, 2, 9, 0, 0, 0, by decide⟩
  reminderAt := some ⟨2026, 3, 1, 9, 0, 0, 0, by decide⟩
  completedAt := none
  revision := 1
  createdAt := ⟨2026, 2, 20, 8, 0, 0, 0, by decide⟩
  updatedAt := ⟨2026, 2, 20, 8, 0, 0, 0, by decide⟩
  canonical := canonical_interview
  positive := le_rfl

theorem calendar_reads_interview : ∃ text,
    exportTaskCalendar "Koch" "Hotel Seeblick, AG" [interviewTask] = .ok text ∧
      CalendarReads "Koch" "Hotel Seeblick, AG" [interviewTask] text := by
  have succeeds : (exportTaskCalendar "Koch" "Hotel Seeblick, AG" [interviewTask]).isOk = true := by
    decide +kernel
  obtain ⟨text, exported⟩ := ok_of_isOk succeeds
  exact ⟨text, exported, calendar_reads _ _ _ text exported⟩

end CareerOS
