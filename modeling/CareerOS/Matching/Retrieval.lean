/-
This file is the retrieval of evidence for a prompt: the ranking of the documents and the
part of them that goes into the context. The context has a budget of characters, but the
texts are cut before they are written as JSON, which makes them longer; so the cut texts
are cut again until the context fits.

The arithmetic of the scores is on floats and is a parameter. Everything here holds for
whatever order the scores give.
-/

import CareerOS.Library.JsonText
import CareerOS.Library.Outcome
import CareerOS.Matching.Policy

namespace CareerOS

namespace Retrieval

/-- `EvidenceDocument`. -/
structure EvidenceDocument where
  id : String
  kind : String
  text : String
  metadata : Json
  validationMetadata : Json
  deriving DecidableEq

/-- `RankedEvidence`. -/
structure RankedEvidence (Score : Type) where
  document : EvidenceDocument
  score : Score

/-- `RetrievalBundle`. -/
structure RetrievalBundle (Score : Type) where
  ranked : List (RankedEvidence Score)
  context : List Char
  truncated : Bool

/-- What can be raised. -/
inductive RetrievalError
  | valueError (message : String)
  | assertionError (message : String)
  deriving DecidableEq

/-- The document with another text. -/
def RankedEvidence.withText {Score : Type} (item : RankedEvidence Score) (text : String) :
    RankedEvidence Score :=
  { item with document := { item.document with text := text } }

/-! ### The ranking -/

/-- The floats of a ranking. -/
class Bm25Scores (Score : Type) where
  zero : Score
  /-- The score with the part of a term: of its document frequency among so many documents, its
  frequency in a document of the given length, and the length of all documents. -/
  addTerm : Score → (documents frequencyDocs frequency length totalLength : Nat) → Score
  round : Score → Score

section

variable [TextTables] [CaseTables] {Score : Type} [Bm25Scores Score] [LinearOrder Score]

/-- `list(dict.fromkeys(tokens))`. -/
def fromKeys (tokens : List String) : List String := tokens.reverse.dedup.reverse

/-- The score of a document. -/
def bm25Score (queryTerms : List String) (tokenized : List (List String))
    (tokens : List String) : Score :=
  let score := queryTerms.foldl (fun score term =>
    if tokens.count term = 0 then score
    else Bm25Scores.addTerm score tokenized.length
      (tokenized.countP fun tokens => tokens.contains term) (tokens.count term) tokens.length
      (tokenized.map List.length).sum) Bm25Scores.zero
  Bm25Scores.round score

/-- `(-item.score, item.document.kind, item.document.id)`. -/
def rankKey (item : RankedEvidence Score) : Scoreᵒᵈ ×ₗ String ×ₗ String :=
  toLex (OrderDual.toDual item.score, toLex (item.document.kind, item.document.id))

/-- All documents with their scores, the best first. -/
def scored (query : String) (documents : List EvidenceDocument) : List (RankedEvidence Score) :=
  let queryTerms := fromKeys (tokenize query)
  let tokenized := documents.map fun document => tokenize document.text
  (documents.map fun document =>
    ⟨document, bm25Score queryTerms tokenized (tokenize document.text)⟩).insertionSort
      fun first second => rankKey first ≤ rankKey second

/-- `bm25_rank`. -/
def bm25Rank (query : String) (documents : List EvidenceDocument) (limit : Int) :
    List (RankedEvidence Score) :=
  if documents = [] ∨ limit ≤ 0 then []
  else (scored query documents).take (min limit documents.length).toNat

end

/-! ### The context -/

section

variable {Score : Type}

/-- `_serialized`. -/
def serialized (document : EvidenceDocument) (text : String) : List Char :=
  Json.dumps (.obj [
    ("content", .str text),
    ("id", .str document.id),
    ("kind", .str document.kind),
    ("metadata", document.metadata)])

def RankedEvidence.line (item : RankedEvidence Score) : List Char :=
  serialized item.document item.document.text

/-- `"UNTRUSTED_EVIDENCE_JSONL\n"`. -/
def contextPrefix : List Char := "UNTRUSTED_EVIDENCE_JSONL\n".toList

def contextOf (items : List (RankedEvidence Score)) : List Char :=
  contextPrefix ++ ['\n'].intercalate (items.map RankedEvidence.line)

/-- `text[:length].rstrip()`. -/
def clip (length : Nat) (text : String) : String :=
  String.ofList (Text.rstripList (text.toList.take length))

/-- `text[:-16].rstrip()`. -/
def shorten (text : String) : String := clip (text.length - 16) text

/-- What the records take without their texts. -/
def emptyCost (ranked : List (RankedEvidence Score)) : Nat :=
  contextPrefix.length + (ranked.length - 1) +
    (ranked.map fun item => (serialized item.document "").length).sum

/-- The length of the longest text. -/
def longest (items : List (RankedEvidence Score)) : Nat :=
  (items.map fun item => item.document.text.length).foldr max 0

/-- The first item with a text of the given length gets a shorter one, if there is one. -/
def shortenFirst (length : Nat) :
    List (RankedEvidence Score) → Option (List (RankedEvidence Score))
  | [] => none
  | item :: rest =>
    if item.document.text.length = length then
      let shortened := shorten item.document.text
      if shortened = item.document.text then none else some (item.withText shortened :: rest)
    else (shortenFirst length rest).map (item :: ·)

/-- The length of all texts. -/
def textTotal (items : List (RankedEvidence Score)) : Nat :=
  (items.map fun item => item.document.text.length).sum

/-! ### Shorter texts -/

theorem isPrefix_clip (length : Nat) (text : String) : (clip length text).toList <+: text.toList := by
  unfold clip Text.rstripList
  rw [String.toList_ofList]
  exact (List.rdropWhile_prefix _ _).trans (List.take_prefix _ _)

theorem length_clip_le (length : Nat) (text : String) : (clip length text).length ≤ length := by
  unfold clip Text.rstripList
  rw [String.length_ofList]
  exact (List.rdropWhile_prefix _ _).length_le.trans (List.length_take_le _ _)

/-- A text that is not empty has a shorter one. -/
theorem length_shorten_lt {text : String} (solid : text ≠ "") :
    (shorten text).length < text.length := by
  have positive := Text.length_pos_of_ne solid
  have bound := length_clip_le (text.length - 16) text
  unfold shorten
  omega

theorem shorten_eq_iff (text : String) : shorten text = text ↔ text = "" := by
  constructor
  · intro same
    by_contra solid
    have shorter := length_shorten_lt solid
    rw [same] at shorter
    exact lt_irrefl _ shorter
  · rintro rfl
    rfl

@[simp] theorem withText_text (item : RankedEvidence Score) (text : String) :
    (item.withText text).document.text = text := rfl

/-- The texts have become shorter by an item that was given a shorter one. -/
theorem textTotal_shortenFirst {length : Nat} {items next : List (RankedEvidence Score)}
    (shortened : shortenFirst length items = some next) : textTotal next < textTotal items := by
  induction items generalizing next with
  | nil => cases shortened
  | cons item rest inductionHypothesis =>
    unfold shortenFirst at shortened
    unfold textTotal at inductionHypothesis ⊢
    split at shortened
    · dsimp only at shortened
      split at shortened
      · cases shortened
      · rename_i changes
        have shorter := length_shorten_lt fun empty => changes ((shorten_eq_iff _).mpr empty)
        cases shortened
        simp only [List.map_cons, List.sum_cons, withText_text]
        omega
    · obtain ⟨later, isLater, rfl⟩ := Option.map_eq_some_iff.mp shortened
      simp only [List.map_cons, List.sum_cons]
      have := inductionHypothesis isLater
      omega

/-- `while len(context) > max_context_chars`. -/
def shrinkAll (budget : Nat) (items : List (RankedEvidence Score)) :
    Except RetrievalError (List (RankedEvidence Score)) :=
  if budget < (contextOf items).length then
    match _shortened : shortenFirst (longest items) items with
    | none => .error (.valueError "evidence cannot fit the deterministic context budget")
    | some next => shrinkAll budget next
  else .ok items
termination_by textTotal items
decreasing_by exact textTotal_shortenFirst _shortened

/-- `while len(line) > remaining and clipped`. -/
def shrinkText (document : EvidenceDocument) (remaining : Int) (clipped : String) : String :=
  if remaining < (serialized document clipped).length ∧ clipped ≠ "" then
    shrinkText document remaining (shorten clipped)
  else clipped
termination_by clipped.length
decreasing_by
  rename_i again
  exact length_shorten_lt again.2

/-- The loop over the ranking without `require_all`: what was selected, and whether it was left
early. -/
structure Selection (Score : Type) where
  lines : List (List Char)
  selected : List (RankedEvidence Score)
  used : Nat
  truncated : Bool

/-- The selection with one more item. -/
def Selection.add (selection : Selection Score) (item : RankedEvidence Score) : Selection Score where
  lines := selection.lines ++ [item.line]
  selected := selection.selected ++ [item]
  used := selection.used + item.line.length + if selection.lines = [] then 0 else 1
  truncated := selection.truncated

/-- What is left of the budget for the next line. -/
def Selection.remaining (selection : Selection Score) (budget : Nat) : Int :=
  budget - selection.used - if selection.lines = [] then 0 else 1

/-- The end of the loop at a line that is too long: the first document of all may go in with a
part of its text. -/
def Selection.stop (selection : Selection Score) (budget : Nat) (item : RankedEvidence Score) :
    Selection Score :=
  let remaining := selection.remaining budget
  let selection := { selection with truncated := true }
  if selection.selected = [] ∧ 120 < remaining then
    let overhead := (serialized item.document "").length
    let allowedText := (remaining - overhead - 1).toNat
    let clipped := shrinkText item.document remaining (clip allowedText item.document.text)
    if clipped ≠ "" ∧ (serialized item.document clipped).length ≤ remaining then
      { selection with
        lines := selection.lines ++ [serialized item.document clipped]
        selected := selection.selected ++ [item.withText clipped] }
    else selection
  else selection

/-- The loop over the ranking. -/
def select (budget : Nat) (selection : Selection Score) :
    List (RankedEvidence Score) → Selection Score
  | [] => selection
  | item :: rest =>
    if item.line.length ≤ selection.remaining budget then select budget (selection.add item) rest
    else selection.stop budget item

/-- `retrieve_evidence` with `require_all`: every document, with texts that fit. -/
def retrieveAll (maxContextChars : Nat) (ranked : List (RankedEvidence Score)) :
    Except RetrievalError (RetrievalBundle Score) := do
  refuseWhen (maxContextChars < emptyCost ranked)
    (.valueError "evidence identifiers exceed the deterministic context budget")
  let share := (maxContextChars - emptyCost ranked) / max 1 ranked.length
  let clippedItems ← shrinkAll maxContextChars
    (ranked.map fun item => item.withText (clip share item.document.text))
  return {
    ranked := clippedItems
    context := contextOf clippedItems
    truncated := (clippedItems.zip ranked).any fun pair =>
      decide (pair.1.document.text ≠ pair.2.document.text) }

/-- `retrieve_evidence` without `require_all`: as many documents as fit. -/
def retrieveFront (maxContextChars : Nat) (ranked : List (RankedEvidence Score)) :
    Except RetrievalError (RetrievalBundle Score) := do
  let selection := select maxContextChars ⟨[], [], contextPrefix.length, false⟩ ranked
  let context := contextPrefix ++ ['\n'].intercalate selection.lines
  refuseWhen (maxContextChars < context.length)
    (.assertionError "retrieval context exceeded its deterministic budget")
  return ⟨selection.selected, context, selection.truncated⟩

end

section

variable [TextTables] [CaseTables] {Score : Type} [Bm25Scores Score] [LinearOrder Score]

/-- The ranking that `retrieve_evidence` works on. -/
def ranking (query : String) (documents : List EvidenceDocument) (limit : Int)
    (requireAll : Bool) : List (RankedEvidence Score) :=
  bm25Rank query documents (if requireAll then max limit documents.length else limit)

/-- `retrieve_evidence`. -/
def retrieveEvidence (query : String) (documents : List EvidenceDocument) (maxContextChars : Nat)
    (limit : Int) (requireAll : Bool) : Except RetrievalError (RetrievalBundle Score) :=
  if maxContextChars < 256 then
    .error (.valueError "evidence context budget must be at least 256 characters")
  else
    let ranked := ranking query documents limit requireAll
    if requireAll then retrieveAll maxContextChars ranked
    else retrieveFront maxContextChars ranked

/-! ### What is returned -/

/-- The same evidence with a part of its text from the beginning. -/
structure ShortenedTo (shown original : RankedEvidence Score) : Prop where
  same : shown = original.withText shown.document.text
  begins : shown.document.text.toList <+: original.document.text.toList

/-- Some ranked document was left out or shortened. -/
def LeftOutOrShortened (shown ranked : List (RankedEvidence Score)) : Prop :=
  shown.length < ranked.length ∨
    ∃ pair ∈ shown.zip ranked, pair.1.document.text ≠ pair.2.document.text

/-- A bundle within its budget. -/
structure Retrieved (ranked : List (RankedEvidence Score)) (budget : Nat) (requireAll : Bool)
    (bundle : RetrievalBundle Score) : Prop where
  context : bundle.context = contextOf bundle.ranked
  within : bundle.context.length ≤ budget
  all : requireAll = true → List.Forall₂ ShortenedTo bundle.ranked ranked
  front : requireAll = false → bundle.ranked <+: ranked ∨
    ∃ shown first, bundle.ranked = [shown] ∧ ranked.head? = some first ∧ ShortenedTo shown first
  truncated : bundle.truncated = true ↔ LeftOutOrShortened bundle.ranked ranked

variable {selection : Selection Score} {budget : Nat}

section

omit [TextTables] [CaseTables] [Bm25Scores Score] [LinearOrder Score]

theorem ShortenedTo.refl (item : RankedEvidence Score) : ShortenedTo item item :=
  ⟨rfl, List.prefix_rfl⟩

theorem ShortenedTo.trans {first second third : RankedEvidence Score}
    (one : ShortenedTo first second) (two : ShortenedTo second third) :
    ShortenedTo first third where
  same := by
    rw [one.same, two.same]
    rfl
  begins := one.begins.trans two.begins

theorem shortenedTo_withText (item : RankedEvidence Score) (length : Nat) :
    ShortenedTo (item.withText (clip length item.document.text)) item :=
  ⟨rfl, isPrefix_clip _ _⟩

theorem shortenedAll_trans {first second third : List (RankedEvidence Score)}
    (one : List.Forall₂ ShortenedTo first second) (two : List.Forall₂ ShortenedTo second third) :
    List.Forall₂ ShortenedTo first third := by
  induction one generalizing third with
  | nil =>
    cases two
    exact .nil
  | cons head _ inductionHypothesis =>
    cases two with
    | cons next rest => exact .cons (head.trans next) (inductionHypothesis rest)

/-- A record without its text does not change. -/
theorem emptyCost_shortened {shown original : List (RankedEvidence Score)}
    (shortened : List.Forall₂ ShortenedTo shown original) : emptyCost shown = emptyCost original := by
  have costs : (shown.map fun item => (serialized item.document "").length) =
      original.map fun item => (serialized item.document "").length := by
    induction shortened with
    | nil => rfl
    | cons head _ inductionHypothesis =>
      rw [List.map_cons, List.map_cons, inductionHypothesis, head.same]
      rfl
  unfold emptyCost
  rw [costs, shortened.length_eq]

/-! ### The length of a context -/

theorem length_intercalate (lines : List (List Char)) :
    (['\n'].intercalate lines).length = (lines.length - 1) + (lines.map List.length).sum := by
  cases lines with
  | nil => rfl
  | cons line rest =>
    have joined := Text.length_intercalate '\n' (List.cons_ne_nil line rest)
    rw [List.sum_map_add, List.map_const', List.sum_replicate, smul_eq_mul, mul_one] at joined
    rw [List.length_cons] at joined ⊢
    omega

theorem length_contextOf (items : List (RankedEvidence Score)) :
    (contextOf items).length = contextPrefix.length + (items.length - 1) +
      (items.map fun item => item.line.length).sum := by
  unfold contextOf
  rw [List.length_append, length_intercalate, List.length_map, List.map_map, Nat.add_assoc]
  rfl

variable {items : List (RankedEvidence Score)}

/-- Without texts the context is as long as the empty records. -/
theorem length_contextOf_empty
    (empty : ∀ item ∈ items, item.document.text = "") : (contextOf items).length = emptyCost items := by
  have lines : (items.map fun item => item.line.length) =
      items.map fun item => (serialized item.document "").length := by
    refine List.map_congr_left fun item member => ?_
    unfold RankedEvidence.line
    rw [empty item member]
  rw [length_contextOf, lines]
  rfl

/-! ### All documents -/

theorem shortenFirst_shortened {length : Nat} {items next : List (RankedEvidence Score)}
    (shortened : shortenFirst length items = some next) : List.Forall₂ ShortenedTo next items := by
  induction items generalizing next with
  | nil => cases shortened
  | cons item rest inductionHypothesis =>
    unfold shortenFirst at shortened
    split at shortened
    · dsimp only at shortened
      split at shortened
      · cases shortened
      · cases shortened
        exact .cons (shortenedTo_withText item _) (List.forall₂_same.mpr fun item _ => .refl item)
    · obtain ⟨later, isLater, rfl⟩ := Option.map_eq_some_iff.mp shortened
      exact .cons (.refl item) (inductionHypothesis isLater)

variable {item : RankedEvidence Score}

theorem length_le_longest (member : item ∈ items) : item.document.text.length ≤ longest items := by
  unfold longest
  induction items with
  | nil => cases member
  | cons head rest inductionHypothesis =>
    rw [List.map_cons, List.foldr_cons]
    rcases List.mem_cons.mp member with rfl | later
    · exact le_max_left _ _
    · exact (inductionHypothesis later).trans (le_max_right _ _)

/-- Some item has the longest text, unless there is none. -/
theorem exists_longest (nonempty : items ≠ []) :
    ∃ item ∈ items, item.document.text.length = longest items := by
  unfold longest
  induction items with
  | nil => exact absurd rfl nonempty
  | cons head rest inductionHypothesis =>
    rw [List.map_cons, List.foldr_cons]
    rcases le_total (((rest.map fun item => item.document.text.length)).foldr max 0)
        head.document.text.length with shorter | longer
    · exact ⟨head, List.mem_cons_self, (max_eq_left shorter).symm⟩
    · by_cases empty : rest = []
      · subst empty
        exact ⟨head, List.mem_cons_self, (max_eq_left (Nat.zero_le _)).symm⟩
      · obtain ⟨item, member, same⟩ := inductionHypothesis empty
        exact ⟨item, List.mem_cons_of_mem _ member, by rw [max_eq_right longer, same]⟩

/-- Only an empty text cannot be shortened. -/
theorem shortenFirst_none {length : Nat}
    (stuck : shortenFirst length items = none) (member : item ∈ items)
    (same : item.document.text.length = length) : length = 0 := by
  induction items with
  | nil => cases member
  | cons head rest inductionHypothesis =>
    unfold shortenFirst at stuck
    split at stuck
    · rename_i isHead
      dsimp only at stuck
      split at stuck
      · rename_i unchanged
        rw [← isHead, (shorten_eq_iff _).mp unchanged]
        rfl
      · cases stuck
    · rename_i other
      rcases List.mem_cons.mp member with rfl | later
      · exact absurd same other
      · exact inductionHypothesis (Option.map_eq_none_iff.mp stuck) later

/-- The loop finds texts that fit whenever the empty records fit. -/
theorem shrinkAll_ok (items : List (RankedEvidence Score))
    (fits : emptyCost items ≤ budget) : ∃ next, shrinkAll budget items = .ok next ∧
      List.Forall₂ ShortenedTo next items ∧ (contextOf next).length ≤ budget := by
  induction total : textTotal items using Nat.strong_induction_on generalizing items with
  | _ count inductionHypothesis =>
    unfold shrinkAll
    split
    · rename_i tooLong
      split
      · rename_i stuck
        -- every text is empty, so the context is as long as the empty records
        have empty : ∀ item ∈ items, item.document.text = "" := by
          intro item member
          have nonempty : items ≠ [] := List.ne_nil_of_mem member
          obtain ⟨first, isFirst, same⟩ := exists_longest nonempty
          have none := shortenFirst_none stuck isFirst same
          by_contra solid
          have positive := Text.length_pos_of_ne solid
          have bound := length_le_longest member
          omega
        rw [length_contextOf_empty empty] at tooLong
        omega
      · rename_i next shortened
        have again := shortenFirst_shortened shortened
        have cost := emptyCost_shortened again
        obtain ⟨last, found, shorter, within⟩ := inductionHypothesis (textTotal next)
          (total ▸ textTotal_shortenFirst shortened) next (cost ▸ fits) rfl
        exact ⟨last, found, shortenedAll_trans shorter again, within⟩
    · rename_i short
      exact ⟨items, rfl, List.forall₂_same.mpr fun item _ => .refl item, not_lt.mp short⟩

/-! ### As many documents as fit -/

theorem length_contextOf_append (items : List (RankedEvidence Score))
    (item : RankedEvidence Score) : (contextOf (items ++ [item])).length =
      (contextOf items).length + item.line.length + if items = [] then 0 else 1 := by
  rw [length_contextOf, length_contextOf, List.map_append, List.sum_append, List.length_append]
  cases items with
  | nil => simp
  | cons head rest =>
    rw [if_neg (List.cons_ne_nil _ _)]
    simp only [List.length_cons, List.length_nil, List.map_cons, List.map_nil, List.sum_cons,
      List.sum_nil]
    omega

/-- The loop has selected what it has seen. -/
structure Holds (budget : Nat) (seen : List (RankedEvidence Score)) (selection : Selection Score) :
    Prop where
  selected : selection.selected = seen
  lines : selection.lines = seen.map RankedEvidence.line
  used : selection.used = (contextOf seen).length
  within : selection.used ≤ budget
  going : selection.truncated = false

variable {seen : List (RankedEvidence Score)}

theorem Holds.lines_eq_nil (holds : Holds budget seen selection) :
    selection.lines = [] ↔ seen = [] := by
  rw [holds.lines, List.map_eq_nil_iff]

theorem holds_add (holds : Holds budget seen selection)
    (fits : item.line.length ≤ selection.remaining budget) :
    Holds budget (seen ++ [item]) (selection.add item) := by
  have within := holds.within
  have used : (selection.add item).used = (contextOf (seen ++ [item])).length := by
    rw [length_contextOf_append, ← holds.used]
    unfold Selection.add
    simp only [holds.lines_eq_nil]
  refine ⟨?_, ?_, used, ?_, holds.going⟩
  · unfold Selection.add
    rw [holds.selected]
  · unfold Selection.add
    rw [holds.lines, List.map_append]
    rfl
  · unfold Selection.remaining at fits
    unfold Selection.add
    dsimp only
    split at fits <;> simp_all <;> omega

/-- What the loop ends with: the whole ranking, or the documents before one that does not fit,
or a part of the first one. -/
inductive Selects (seen ranked : List (RankedEvidence Score)) (selection : Selection Score) : Prop
  | whole (selected : selection.selected = seen ++ ranked) (going : selection.truncated = false)
  | front (taken : List (RankedEvidence Score)) (item : RankedEvidence Score)
      (rest : List (RankedEvidence Score)) (split : ranked = taken ++ item :: rest)
      (selected : selection.selected = seen ++ taken) (stopped : selection.truncated = true)
  | part (shown item : RankedEvidence Score) (rest : List (RankedEvidence Score))
      (split : seen ++ ranked = item :: rest) (selected : selection.selected = [shown])
      (shorter : ShortenedTo shown item) (changed : shown.document.text ≠ item.document.text)
      (stopped : selection.truncated = true)

/-- The selection is what the context is made of. -/
structure Written (budget : Nat) (selection : Selection Score) : Prop where
  lines : selection.lines = selection.selected.map RankedEvidence.line
  within : (contextOf selection.selected).length ≤ budget

theorem Holds.written (holds : Holds budget seen selection) :
    Written budget selection where
  lines := by rw [holds.lines, holds.selected]
  within := by
    rw [holds.selected, ← holds.used]
    exact holds.within

theorem isPrefix_shrinkText (document : EvidenceDocument) (remaining : Int) (clipped : String) :
    (shrinkText document remaining clipped).toList <+: clipped.toList := by
  induction total : clipped.length using Nat.strong_induction_on generalizing clipped with
  | _ count inductionHypothesis =>
    unfold shrinkText
    split
    · rename_i again
      exact (inductionHypothesis _ (total ▸ length_shorten_lt again.2) (shorten clipped) rfl).trans
        (isPrefix_clip _ _)
    · exact List.prefix_rfl

/-- The end of the loop at a line that is too long. -/
theorem selects_stop (holds : Holds budget seen selection)
    (tooLong : ¬(item.line.length : Int) ≤ selection.remaining budget)
    (rest : List (RankedEvidence Score)) :
    Selects seen (item :: rest) (selection.stop budget item) ∧
      Written budget (selection.stop budget item) := by
  have kept : Selects seen (item :: rest) { selection with truncated := true } ∧
      Written budget { selection with truncated := true } :=
    ⟨.front [] item rest rfl (by rw [holds.selected, List.append_nil]) rfl,
      holds.written.lines, holds.written.within⟩
  unfold Selection.stop
  dsimp only
  split
  · rename_i first
    split
    · rename_i fits
      have none : seen = [] := holds.selected ▸ first.1
      subst none
      have empty : selection.lines = [] := holds.lines
      have begun : selection.used = contextPrefix.length := by
        rw [holds.used]
        rfl
      generalize shrunk : shrinkText item.document (selection.remaining budget)
        (clip (selection.remaining budget - (serialized item.document "").length - 1).toNat
          item.document.text) = clipped at fits
      have begins : clipped.toList <+: item.document.text.toList := by
        rw [← shrunk]
        exact (isPrefix_shrinkText _ _ _).trans (isPrefix_clip _ _)
      refine ⟨.part (item.withText clipped) item rest rfl ?_ ⟨rfl, begins⟩ ?_ rfl, ?_, ?_⟩
      · rw [first.1]
        rfl
      · intro same
        rw [withText_text] at same
        rw [same] at fits
        exact tooLong fits.2
      · rw [empty, first.1]
        rfl
      · have long := fits.2
        unfold Selection.remaining at long
        rw [if_pos empty, begun] at long
        show (contextOf (selection.selected ++ [item.withText clipped])).length ≤ budget
        rw [first.1, length_contextOf_append, if_pos rfl,
          show (contextOf ([] : List (RankedEvidence Score))).length = contextPrefix.length from rfl]
        have line : (item.withText clipped).line = serialized item.document clipped := rfl
        rw [line]
        omega
    · exact kept
  · exact kept

/-- The whole loop. -/
theorem selects_select (ranked : List (RankedEvidence Score))
    (holds : Holds budget seen selection) :
    Selects seen ranked (select budget selection ranked) ∧
      Written budget (select budget selection ranked) := by
  induction ranked generalizing seen selection with
  | nil =>
    exact ⟨.whole (by rw [List.append_nil]; exact holds.selected) holds.going, holds.written⟩
  | cons item rest inductionHypothesis =>
    unfold select
    split
    · rename_i fits
      obtain ⟨selects, written⟩ := inductionHypothesis (holds_add holds fits)
      refine ⟨?_, written⟩
      cases selects with
      | whole selected going =>
        exact .whole (by rw [selected, List.append_assoc]; rfl) going
      | front taken last back split selected stopped =>
        exact .front (item :: taken) last back (by rw [split]; rfl)
          (by rw [selected, List.append_assoc]; rfl) stopped
      | part shown first back split selected shorter changed stopped =>
        exact .part shown first back (by rw [← split, List.append_assoc]; rfl) selected shorter
          changed stopped
    · rename_i tooLong
      exact selects_stop holds tooLong rest

end

/-! ### The ranking -/

theorem scored_perm (query : String) (documents : List EvidenceDocument) :
    ((scored query documents : List (RankedEvidence Score)).map
      RankedEvidence.document).Perm documents := by
  unfold scored
  refine ((List.perm_insertionSort _ _).map _).trans ?_
  rw [List.map_map]
  exact List.Perm.of_eq (List.map_id _)

/-- All documents are ranked when all are required. -/
theorem ranking_all (query : String) (documents : List EvidenceDocument) (limit : Int) :
    ranking query documents limit true = (scored query documents : List (RankedEvidence Score)) := by
  have count : (scored query documents : List (RankedEvidence Score)).length =
      documents.length := by
    rw [← List.length_map RankedEvidence.document, (scored_perm query documents).length_eq]
  unfold ranking bm25Rank
  rw [if_pos rfl]
  split
  · rename_i absent
    have none : documents = [] := by
      rcases absent with none | small
      · exact none
      · rw [← List.length_eq_zero_iff]
        have := le_max_right limit (documents.length : Int)
        omega
    rw [none, List.length_nil] at count
    exact (List.eq_nil_of_length_eq_zero (none ▸ count)).symm
  · refine List.take_of_length_le ?_
    rw [count, min_eq_right (le_max_right _ _), Int.toNat_natCast]

theorem scored_sorted (query : String) (documents : List EvidenceDocument) :
    (scored query documents : List (RankedEvidence Score)).Pairwise fun first second =>
      rankKey first ≤ rankKey second :=
  List.pairwise_insertionSort _ _

section

omit [TextTables] [CaseTables] [Bm25Scores Score] [LinearOrder Score]

/-- Items of equal number are shortened when one of their texts differs. -/
theorem leftOutOrShortened_iff {shown ranked : List (RankedEvidence Score)}
    (shortened : List.Forall₂ ShortenedTo shown ranked) : LeftOutOrShortened shown ranked ↔
      ∃ pair ∈ shown.zip ranked, pair.1.document.text ≠ pair.2.document.text := by
  unfold LeftOutOrShortened
  rw [shortened.length_eq]
  exact or_iff_right (lt_irrefl _)

theorem not_leftOutOrShortened (ranked : List (RankedEvidence Score)) :
    ¬LeftOutOrShortened ranked ranked := by
  rw [leftOutOrShortened_iff (List.forall₂_same.mpr fun item _ => .refl item)]
  rintro ⟨pair, member, differs⟩
  rw [List.zip_eq_zipWith, List.zipWith_self] at member
  obtain ⟨item, -, rfl⟩ := List.mem_map.mp member
  exact differs rfl

/-- The loop over the ranking tells whether it left something out. -/
theorem retrieved_select (ranked : List (RankedEvidence Score))
    (selects : Selects [] ranked selection) (written : Written budget selection) :
    Retrieved ranked budget false
      ⟨selection.selected, contextPrefix ++ ['\n'].intercalate selection.lines,
        selection.truncated⟩ := by
  have context : contextPrefix ++ ['\n'].intercalate selection.lines =
      contextOf selection.selected := by
    rw [written.lines]
    rfl
  refine ⟨context, ?_, nofun, fun _ => ?_, ?_⟩
  · dsimp only
    rw [context]
    exact written.within
  · cases selects with
    | whole selected going => exact .inl (by dsimp only; rw [selected]; exact List.prefix_rfl)
    | front taken item rest split selected stopped =>
      refine .inl ?_
      dsimp only
      rw [selected, split]
      exact List.prefix_append _ _
    | part shown item rest split selected shorter changed stopped =>
      refine .inr ⟨shown, item, selected, ?_, shorter⟩
      rw [List.nil_append] at split
      rw [split]
      rfl
  · dsimp only
    cases selects with
    | whole selected going =>
      rw [going, selected, List.nil_append]
      exact iff_of_false Bool.false_ne_true (not_leftOutOrShortened ranked)
    | front taken item rest split selected stopped =>
      rw [stopped]
      refine iff_of_true rfl (.inl ?_)
      rw [selected, split]
      simp
    | part shown item rest split selected shorter changed stopped =>
      rw [stopped]
      rw [List.nil_append] at split
      refine iff_of_true rfl (.inr ⟨(shown, item), ?_, changed⟩)
      rw [selected, split]
      exact List.mem_cons_self

/-- All documents are returned once their records fit. -/
theorem retrieveAll_ok {ranked : List (RankedEvidence Score)} (fits : ¬budget < emptyCost ranked) :
    ∃ bundle, retrieveAll budget ranked = .ok bundle ∧ Retrieved ranked budget true bundle := by
  have clipped : List.Forall₂ ShortenedTo
      (ranked.map fun item => item.withText
        (clip ((budget - emptyCost ranked) / max 1 ranked.length) item.document.text)) ranked := by
    rw [List.forall₂_map_left_iff]
    exact List.forall₂_same.mpr fun item _ => shortenedTo_withText item _
  obtain ⟨shown, shrunk, shorter, within⟩ := shrinkAll_ok _
    ((emptyCost_shortened clipped).trans_le (not_lt.mp fits))
  have shortened := shortenedAll_trans shorter clipped
  refine ⟨⟨shown, contextOf shown, (shown.zip ranked).any fun pair =>
    decide (pair.1.document.text ≠ pair.2.document.text)⟩, ?_, rfl, within, fun _ => shortened,
    nofun, ?_⟩
  · simp only [retrieveAll, bind_ok_iff, refuseWhen_ok_iff, pure_ok_iff]
    exact ⟨(), fits, shown, shrunk, rfl⟩
  · rw [leftOutOrShortened_iff shortened]
    simp only [List.any_eq_true, decide_eq_true_eq]

/-- As many documents as fit are returned; the last check never fails. -/
theorem retrieveFront_ok (ranked : List (RankedEvidence Score))
    (enough : contextPrefix.length ≤ budget) :
    ∃ bundle, retrieveFront budget ranked = .ok bundle ∧ Retrieved ranked budget false bundle := by
  have holds : Holds budget ([] : List (RankedEvidence Score))
      ⟨[], [], contextPrefix.length, false⟩ := ⟨rfl, rfl, rfl, enough, rfl⟩
  obtain ⟨selects, written⟩ := selects_select ranked holds
  have retrieved := retrieved_select ranked selects written
  refine ⟨_, ?_, retrieved⟩
  simp only [retrieveFront, bind_ok_iff, refuseWhen_ok_iff, pure_ok_iff]
  exact ⟨(), not_lt.mpr retrieved.within, trivial⟩

end

/-- What is returned, and when it is refused. With `require_all` the ranking is all documents
in the order of their scores. -/
theorem retrieval_within_budget (query : String) (documents : List EvidenceDocument)
    (maxContextChars : Nat) (enough : 256 ≤ maxContextChars) (limit : Int) (requireAll : Bool) :
    let ranked : List (RankedEvidence Score) := ranking query documents limit requireAll
    (∀ bundle, retrieveEvidence query documents maxContextChars limit requireAll = .ok bundle →
      Retrieved ranked maxContextChars requireAll bundle) ∧
    (∀ error, (retrieveEvidence query documents maxContextChars limit requireAll :
        Except RetrievalError (RetrievalBundle Score)) = .error error ↔
      requireAll = true ∧ maxContextChars < emptyCost ranked ∧
        error = .valueError "evidence identifiers exceed the deterministic context budget") ∧
    (requireAll = true → (ranked.map RankedEvidence.document).Perm documents ∧
      ranked.Pairwise fun first second => rankKey first ≤ rankKey second) := by
  intro ranked
  have above : ¬maxContextChars < 256 := not_lt.mpr enough
  unfold retrieveEvidence
  rw [if_neg above]
  cases requireAll with
  | true =>
    have all : ranked = scored query documents := ranking_all query documents limit
    refine and_assoc.mp ⟨?_, fun _ => ?_⟩
    · show (∀ bundle, retrieveAll maxContextChars ranked = .ok bundle → _) ∧
        ∀ error, retrieveAll maxContextChars ranked = .error error ↔ _
      by_cases large : maxContextChars < emptyCost ranked
      · have refused : retrieveAll maxContextChars ranked = .error (.valueError
            "evidence identifiers exceed the deterministic context budget") := by
          unfold retrieveAll refuseWhen
          rw [if_pos large]
          rfl
        rw [refused]
        refine ⟨fun bundle returned => (by cases returned), fun error => ?_⟩
        rw [Except.error.injEq]
        exact ⟨fun same => ⟨rfl, large, same.symm⟩, fun both => both.2.2.symm⟩
      · obtain ⟨bundle, returned, retrieved⟩ := retrieveAll_ok large
        rw [returned]
        refine ⟨fun other same => ?_, fun error => ?_⟩
        · cases same
          exact retrieved
        · exact ⟨fun impossible => (by cases impossible), fun both => absurd both.2.1 large⟩
    · rw [all]
      exact ⟨scored_perm query documents, scored_sorted query documents⟩
  | false =>
    have room : contextPrefix.length ≤ maxContextChars :=
      (show contextPrefix.length ≤ 256 by decide).trans enough
    obtain ⟨bundle, returned, retrieved⟩ := retrieveFront_ok ranked room
    refine and_assoc.mp ⟨?_, nofun⟩
    show (∀ bundle, retrieveFront maxContextChars ranked = .ok bundle → _) ∧
      ∀ error, retrieveFront maxContextChars ranked = .error error ↔ _
    rw [returned]
    refine ⟨fun other same => ?_, fun error => ?_⟩
    · cases same
      exact retrieved
    · exact ⟨fun impossible => (by cases impossible), fun both => absurd both.1 Bool.false_ne_true⟩

end

/-- A ranking that counts the words of the query, on ASCII text. -/
@[reducible] def Bm25Scores.counting : Bm25Scores Nat where
  zero := 0
  addTerm score _ _ frequency _ _ := score + frequency
  round := id

/-- Two documents that a query can find. -/
def nurseDocuments : List EvidenceDocument := [
  ⟨"job:1", "job", "Nurse in Bern", .obj [], .null⟩,
  ⟨"job:2", "job", "Nurse, night nurse \\ in Basel", .obj [], .null⟩]

section

attribute [local instance] TextTables.plain CaseTables.ascii Bm25Scores.counting

theorem retrieval_within_budget_nurse : ∃ bundle : RetrievalBundle Nat,
    retrieveEvidence "nurse" nurseDocuments 256 20 false = .ok bundle ∧
      Retrieved (ranking "nurse" nurseDocuments 20 false) 256 false bundle := by
  have succeeds : (retrieveEvidence "nurse" nurseDocuments 256 20 false :
      Except RetrievalError (RetrievalBundle Nat)).isOk = true := by
    decide +kernel
  obtain ⟨bundle, returned⟩ := ok_of_isOk succeeds
  exact ⟨bundle, returned,
    (retrieval_within_budget "nurse" nurseDocuments 256 (by decide) 20 false).1 bundle returned⟩

end

end Retrieval

end CareerOS
