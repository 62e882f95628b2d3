/-
This file is the durable receipt of a completed search. Of the status of a run that is
done only named counters and the two moments are taken over; a receipt that comes from
an archive is brought into the same shape by building it again from its own fields.

Every receipt that is built is a fixed point of that, so doing it twice is doing it once.
-/

import CareerOS.Library.Json
import CareerOS.Library.Outcome
import CareerOS.Library.Text
import CareerOS.Library.Timestamp

namespace CareerOS

/-- `datetime.isoformat()` of a moment in UTC. -/
def isoformat (moment : DateTime) : String :=
  String.ofList (moment.isoWith ['+', '0', '0', ':', '0', '0'])

/-- What Python makes of texts and floats. -/
class PythonValues where
  /-- `datetime.fromisoformat(text)`, nothing where it raises a `ValueError`. -/
  fromisoformat : String → Option Timestamp
  /-- It reads what `isoformat` writes. -/
  fromisoformat_isoformat : ∀ moment, fromisoformat (isoformat moment) = some (.utc moment)
  /-- `int(text)`, nothing where it raises. -/
  intOfText : String → Option Int
  /-- `int(value)` of a float, nothing where it raises. -/
  intOfFloat : String → Option Int
  /-- `int((finished_at - started_at).total_seconds() * 1000)`. -/
  milliseconds : DateTime → DateTime → Int
  /-- `str(value)` of a value that is no text. -/
  reprOf : Json → String

/-- A moment whose UTC is no `datetime`. -/
structure OverflowError where
  deriving DecidableEq

variable [PythonValues]

def searchReceiptSchemaVersion : Int := 1

def searchReceiptMaxCounter : Int := 2147483647

def searchReceiptMaxDurationMs : Int := 31 * 24 * 60 * 60 * 1000

def searchReceiptMaxSerializedBytes : Nat := 4096

def searchReceiptCounterKeys : List String := [
  "total_searches",
  "searches_completed",
  "jobs_found",
  "jobs_new",
  "jobs_unique",
  "jobs_duplicates",
  "jobs_duplicates_runtime",
  "jobs_duplicates_history",
  "jobs_duplicates_catalog_conflicts",
  "jobs_skipped",
  "jobs_analyzed",
  "jobs_analyze_total",
  "errors",
  "plan_unique_count"]

/-- `payload.get(key)`. -/
def getJson (payload : Dict String Json) (key : String) : Json :=
  (Dict.lookup key payload).getD .null

/-- The text with `+00:00` for a final `Z`. -/
def replaceZulu (text : String) : String :=
  if text.toList.getLast? = some 'Z' then String.ofList (text.toList.dropLast) ++ "+00:00"
  else text

/-- `timestamp.astimezone(timezone.utc)`, where a naive one is in UTC. -/
def utcMoment (timestamp : Timestamp) : Except OverflowError (Option DateTime) :=
  match awareUtc timestamp with
  | some moment => .ok (some moment)
  | none => .error ⟨⟩

/-- `_coerce_timestamp`, of a value that was JSON. -/
def coerceTimestamp (value : Json) : Except OverflowError (Option DateTime) :=
  match value with
  | .str text =>
    let text := Text.strip text
    if text = "" ∨ 64 < text.length then .ok none
    else
      match PythonValues.fromisoformat (replaceZulu text) with
      | none => .ok none
      | some timestamp => utcMoment timestamp
  | _ => .ok none

/-- `min(SEARCH_RECEIPT_MAX_COUNTER, max(0, number))`. -/
def clampCounter (number : Int) : Int := min searchReceiptMaxCounter (max 0 number)

/-- `_bounded_counter`. -/
def boundedCounter (value : Json) : Int :=
  match value with
  | .int number => clampCounter number
  | .float text => ((PythonValues.intOfFloat text).map clampCounter).getD 0
  | .str text => ((PythonValues.intOfText text).map clampCounter).getD 0
  | .null | .bool _ | .arr _ | .obj _ => 0

/-- `_provider_status`. -/
def providerStatus (successful failed : Int) : String :=
  if successful ≠ 0 ∧ failed ≠ 0 then "partial"
  else if successful ≠ 0 then "succeeded"
  else if failed ≠ 0 then "failed"
  else "not_contacted"

/-- The summary, from the two moments and the counters of a status. -/
def summaryOf (startedAt finishedAt : DateTime) (read : String → Json) : Json :=
  let durationMs := min searchReceiptMaxDurationMs
    (max 0 (PythonValues.milliseconds startedAt finishedAt))
  let counts := searchReceiptCounterKeys.map fun key => (key, Json.int (boundedCounter (read key)))
  let successfulRequests := boundedCounter (read "provider_successes")
  let failedRequests := boundedCounter (read "provider_failures")
  .obj [
    ("schema_version", .int searchReceiptSchemaVersion),
    ("started_at", .str (isoformat startedAt)),
    ("finished_at", .str (isoformat finishedAt)),
    ("duration_ms", .int durationMs),
    ("counts", .obj counts),
    ("providers", .obj [
      ("status", .str (providerStatus successfulRequests failedRequests)),
      ("successful_requests", .int successfulRequests),
      ("failed_requests", .int failedRequests),
      ("queries_without_provider", .int (boundedCounter (read "queries_without_provider")))])]

/-- `build_search_completion_summary`. The summary is ASCII, so that its size with
`ensure_ascii` is the one without it. -/
def buildSearchCompletionSummary (statusPayload : Dict String Json) :
    Except OverflowError (Option Json) :=
  if getJson statusPayload "state" ≠ .str "done" then .ok none
  else do
    let startedAt ← coerceTimestamp (getJson statusPayload "started_at")
    let finishedAt ← coerceTimestamp (getJson statusPayload "finished_at")
    match startedAt, finishedAt with
    | some startedAt, some finishedAt =>
      if finishedAt < startedAt then .ok none
      else
        let summary := summaryOf startedAt finishedAt (getJson statusPayload)
        if searchReceiptMaxSerializedBytes < summary.encodedSize then .ok none
        else .ok (some summary)
    | _, _ => .ok none

/-- The status that a summary is built from again. -/
def payloadOfSummary (value counts providers : Dict String Json) : Dict String Json :=
  [("state", .str "done"),
    ("started_at", getJson value "started_at"),
    ("finished_at", getJson value "finished_at"),
    ("provider_successes", getJson providers "successful_requests"),
    ("provider_failures", getJson providers "failed_requests"),
    ("queries_without_provider", getJson providers "queries_without_provider")] ++
  searchReceiptCounterKeys.map fun key => (key, getJson counts key)

/-- `normalize_search_completion_summary`. -/
def normalizeSearchCompletionSummary (value : Json) : Except OverflowError (Option Json) :=
  match value with
  | .obj fields =>
    match getJson fields "counts", getJson fields "providers" with
    | .obj counts, .obj providers =>
      buildSearchCompletionSummary (payloadOfSummary fields counts providers)
    | _, _ => .ok none
  | _ => .ok none

/-- The normal form of an optional summary. -/
def normalizeOptionalSummary (value : Option Json) : Except OverflowError (Option Json) :=
  match value with
  | some value => normalizeSearchCompletionSummary value
  | none => normalizeSearchCompletionSummary .null

/-! ### Moments -/

section

omit [PythonValues]

/-- A text with solid ends is left as it is. -/
theorem stripList_of_solid {letters : List Char}
    (head : ∀ letter ∈ letters.head?, Text.isSpace letter = false)
    (last : ∀ letter ∈ letters.getLast?, Text.isSpace letter = false) :
    Text.stripList letters = letters := by
  have front : letters.dropWhile Text.isSpace = letters := by
    cases letters with
    | nil => rfl
    | cons first rest => exact List.dropWhile_cons_of_neg (by rw [head first rfl]; decide)
  unfold Text.stripList
  rw [front, List.rdropWhile_eq_self_iff]
  intro nonempty space
  rw [last _ (List.getLast?_eq_some_getLast nonempty)] at space
  cases space

theorem isSpace_digit {value : Nat} (small : value < 10) :
    Text.isSpace (DateTime.digit value) = false := by
  revert value
  decide

theorem getLast?_isoformat (moment : DateTime) : (isoformat moment).toList.getLast? = some '0' := by
  unfold isoformat DateTime.isoWith
  rw [String.toList_ofList, List.getLast?_append]
  rfl

theorem strip_isoformat (moment : DateTime) : Text.strip (isoformat moment) = isoformat moment := by
  have kept : Text.stripList (isoformat moment).toList = (isoformat moment).toList := by
    refine stripList_of_solid (fun letter first => ?_) fun letter last => ?_
    · have digit : (isoformat moment).toList.head? =
          some (DateTime.digit (moment.year / 1000 % 10)) := by
        unfold isoformat
        rw [String.toList_ofList]
        rfl
      rw [digit] at first
      rw [← Option.some.inj first]
      exact isSpace_digit (Nat.mod_lt _ (by decide))
    · rw [getLast?_isoformat] at last
      rw [← Option.some.inj last]
      rfl
  unfold Text.strip
  rw [kept]
  exact String.ofList_toList

theorem length_isoformat (moment : DateTime) :
    (isoformat moment).length ≤ 32 ∧ isoformat moment ≠ "" := by
  have length : (isoformat moment).length =
      (moment.isoWith ['+', '0', '0', ':', '0', '0']).length := by
    unfold isoformat
    exact String.length_ofList
  refine ⟨?_, fun empty => ?_⟩
  · rw [length]
    exact DateTime.length_isoWith_le _ moment
  · have last := getLast?_isoformat moment
    rw [empty] at last
    cases last

theorem utcMoment_of {timestamp : Timestamp} {moment : DateTime}
    (known : awareUtc timestamp = some moment) : utcMoment timestamp = .ok (some moment) := by
  unfold utcMoment
  rw [known]

theorem replaceZulu_isoformat (moment : DateTime) :
    replaceZulu (isoformat moment) = isoformat moment := by
  unfold replaceZulu
  rw [getLast?_isoformat]
  rfl

end

/-- The moment of a receipt is read back. -/
theorem coerceTimestamp_isoformat (moment : DateTime) :
    coerceTimestamp (.str (isoformat moment)) = .ok (some moment) := by
  obtain ⟨short, solid⟩ := length_isoformat moment
  unfold coerceTimestamp
  dsimp only
  rw [strip_isoformat, if_neg (not_or.mpr ⟨solid, by omega⟩), replaceZulu_isoformat,
    PythonValues.fromisoformat_isoformat]
  exact utcMoment_of (awareUtc_utc moment)

/-! ### Counters -/

omit [PythonValues] in
theorem clampCounter_clampCounter (number : Int) :
    clampCounter (clampCounter number) = clampCounter number := by
  unfold clampCounter searchReceiptMaxCounter
  omega

/-- A counter of a receipt stays as it is. -/
theorem boundedCounter_boundedCounter (value : Json) :
    boundedCounter (.int (boundedCounter value)) = boundedCounter value := by
  show clampCounter (boundedCounter value) = boundedCounter value
  cases value with
  | int number => exact clampCounter_clampCounter number
  | float text =>
    unfold boundedCounter
    dsimp only
    cases PythonValues.intOfFloat text with
    | none => rfl
    | some number => exact clampCounter_clampCounter number
  | str text =>
    unfold boundedCounter
    dsimp only
    cases PythonValues.intOfText text with
    | none => rfl
    | some number => exact clampCounter_clampCounter number
  | null => rfl
  | bool _ => rfl
  | arr _ => rfl
  | obj _ => rfl

/-! ### Receipts -/

/-- What a summary is built from. -/
structure BuiltFrom (statusPayload : Dict String Json) (startedAt finishedAt : DateTime)
    (summary : Json) : Prop where
  state : getJson statusPayload "state" = .str "done"
  started : coerceTimestamp (getJson statusPayload "started_at") = .ok (some startedAt)
  finished : coerceTimestamp (getJson statusPayload "finished_at") = .ok (some finishedAt)
  ordered : startedAt ≤ finishedAt
  content : summary = summaryOf startedAt finishedAt (getJson statusPayload)
  bounded : summary.encodedSize ≤ searchReceiptMaxSerializedBytes

theorem buildSearchCompletionSummary_some_iff {statusPayload : Dict String Json} {summary : Json} :
    buildSearchCompletionSummary statusPayload = .ok (some summary) ↔
      ∃ startedAt finishedAt, BuiltFrom statusPayload startedAt finishedAt summary := by
  unfold buildSearchCompletionSummary
  constructor
  · intro built
    split at built
    · cases Except.ok.inj built
    · rename_i state
      obtain ⟨started, startedIs, built⟩ := bind_ok_iff.mp built
      obtain ⟨finished, finishedIs, built⟩ := bind_ok_iff.mp built
      cases started with
      | none => cases Except.ok.inj built
      | some startedAt =>
        cases finished with
        | none => cases Except.ok.inj built
        | some finishedAt =>
          dsimp only at built
          split at built
          · cases Except.ok.inj built
          · rename_i ordered
            split at built
            · cases Except.ok.inj built
            · rename_i bounded
              obtain rfl := Option.some.inj (Except.ok.inj built)
              exact ⟨startedAt, finishedAt, not_not.mp state, startedIs, finishedIs,
                not_lt.mp ordered, rfl, not_lt.mp bounded⟩
  · rintro ⟨startedAt, finishedAt, built⟩
    rw [if_neg (not_not.mpr built.state)]
    refine bind_ok_iff.mpr ⟨some startedAt, built.started, bind_ok_iff.mpr
      ⟨some finishedAt, built.finished, ?_⟩⟩
    dsimp only
    rw [if_neg (not_lt.mpr built.ordered), ← built.content, if_neg (not_lt.mpr built.bounded)]

/-- Only the counters matter. -/
theorem summaryOf_congr (startedAt finishedAt : DateTime) {first second : String → Json}
    (counters : ∀ key ∈ searchReceiptCounterKeys,
      boundedCounter (first key) = boundedCounter (second key))
    (successes : boundedCounter (first "provider_successes") =
      boundedCounter (second "provider_successes"))
    (failures : boundedCounter (first "provider_failures") =
      boundedCounter (second "provider_failures"))
    (queries : boundedCounter (first "queries_without_provider") =
      boundedCounter (second "queries_without_provider")) :
    summaryOf startedAt finishedAt first = summaryOf startedAt finishedAt second := by
  have counts : (searchReceiptCounterKeys.map fun key =>
        (key, Json.int (boundedCounter (first key)))) =
      searchReceiptCounterKeys.map fun key => (key, Json.int (boundedCounter (second key))) :=
    List.map_congr_left fun key member => by rw [counters key member]
  unfold summaryOf
  rw [counts, successes, failures, queries]

/-- The parts of a summary. -/
theorem exists_fields_summaryOf (startedAt finishedAt : DateTime) (read : String → Json) :
    ∃ fields counts providers, summaryOf startedAt finishedAt read = .obj fields ∧
      getJson fields "counts" = .obj counts ∧ getJson fields "providers" = .obj providers ∧
      getJson fields "started_at" = .str (isoformat startedAt) ∧
      getJson fields "finished_at" = .str (isoformat finishedAt) ∧
      (∀ key ∈ searchReceiptCounterKeys, getJson counts key = .int (boundedCounter (read key))) ∧
      getJson providers "successful_requests" =
        .int (boundedCounter (read "provider_successes")) ∧
      getJson providers "failed_requests" = .int (boundedCounter (read "provider_failures")) ∧
      getJson providers "queries_without_provider" =
        .int (boundedCounter (read "queries_without_provider")) := by
  refine ⟨_, _, _, rfl, rfl, rfl, rfl, rfl, fun key member => ?_, rfl, rfl, rfl⟩
  unfold getJson
  rw [Dict.lookup_map_of_mem member]
  rfl

omit [PythonValues] in
/-- The counters of the status that a summary is built from again. -/
theorem getJson_payloadOfSummary {value counts providers : Dict String Json} {key : String}
    (member : key ∈ searchReceiptCounterKeys) :
    getJson (payloadOfSummary value counts providers) key = getJson counts key := by
  have other : Dict.lookup key [("state", Json.str "done"),
      ("started_at", getJson value "started_at"), ("finished_at", getJson value "finished_at"),
      ("provider_successes", getJson providers "successful_requests"),
      ("provider_failures", getJson providers "failed_requests"),
      ("queries_without_provider", getJson providers "queries_without_provider")] = none := by
    have apart : ∀ name ∈ ["state", "started_at", "finished_at", "provider_successes",
        "provider_failures", "queries_without_provider"], name ≠ key := by
      revert key
      decide
    simp only [List.forall_mem_cons] at apart
    obtain ⟨state, started, finished, successes, failures, queries, -⟩ := apart
    simp only [Dict.lookup_cons, Dict.lookup_nil, if_neg state, if_neg started, if_neg finished,
      if_neg successes, if_neg failures, if_neg queries]
  show (Dict.lookup key (payloadOfSummary value counts providers)).getD .null = getJson counts key
  unfold payloadOfSummary
  rw [Dict.lookup_append, other, Dict.lookup_map_of_mem member]
  rfl

/-- A receipt that was built is normal. -/
theorem normalize_of_built {statusPayload : Dict String Json} {summary : Json}
    (built : buildSearchCompletionSummary statusPayload = .ok (some summary)) :
    normalizeSearchCompletionSummary summary = .ok (some summary) := by
  obtain ⟨startedAt, finishedAt, from_⟩ := buildSearchCompletionSummary_some_iff.mp built
  obtain ⟨fields, counts, providers, whole, countsAre, providersAre, started, finished, counters,
    successes, failures, queries⟩ :=
    exists_fields_summaryOf startedAt finishedAt (getJson statusPayload)
  have again : summaryOf startedAt finishedAt
      (getJson (payloadOfSummary fields counts providers)) =
        summaryOf startedAt finishedAt (getJson statusPayload) := by
    refine summaryOf_congr _ _ (fun key member => ?_) ?_ ?_ ?_
    · rw [getJson_payloadOfSummary member, counters key member, boundedCounter_boundedCounter]
    · show boundedCounter (getJson providers "successful_requests") = _
      rw [successes, boundedCounter_boundedCounter]
    · show boundedCounter (getJson providers "failed_requests") = _
      rw [failures, boundedCounter_boundedCounter]
    · show boundedCounter (getJson providers "queries_without_provider") = _
      rw [queries, boundedCounter_boundedCounter]
  have rebuilt : buildSearchCompletionSummary (payloadOfSummary fields counts providers) =
      .ok (some summary) := by
    refine buildSearchCompletionSummary_some_iff.mpr ⟨startedAt, finishedAt, rfl, ?_, ?_,
      from_.ordered, from_.content.trans again.symm, from_.bounded⟩
    · show coerceTimestamp (getJson fields "started_at") = _
      rw [started]
      exact coerceTimestamp_isoformat startedAt
    · show coerceTimestamp (getJson fields "finished_at") = _
      rw [finished]
      exact coerceTimestamp_isoformat finishedAt
  rw [from_.content, whole]
  unfold normalizeSearchCompletionSummary
  dsimp only
  rw [countsAre, providersAre]
  dsimp only
  rw [rebuilt, from_.content, whole]

/-- What is normalised is built. -/
theorem exists_payload_of_normal {value summary : Json}
    (normal : normalizeSearchCompletionSummary value = .ok (some summary)) :
    ∃ payload, buildSearchCompletionSummary payload = .ok (some summary) := by
  unfold normalizeSearchCompletionSummary at normal
  split at normal
  · split at normal
    · exact ⟨_, normal⟩
    · cases Except.ok.inj normal
  · cases Except.ok.inj normal

/-- Normalising a receipt twice is normalising it once. -/
theorem normalize_idempotent (value : Json) :
    (normalizeSearchCompletionSummary value >>= normalizeOptionalSummary) =
      normalizeSearchCompletionSummary value := by
  cases normal : normalizeSearchCompletionSummary value with
  | error overflow => rfl
  | ok receipt =>
    cases receipt with
    | none => rfl
    | some summary =>
      show normalizeSearchCompletionSummary summary = .ok (some summary)
      obtain ⟨payload, built⟩ := exists_payload_of_normal normal
      exact normalize_of_built built

end CareerOS
