/-
This file is the receipt of a profile under the updates of its search status: which
updates replace it and count a run, and what an archive accepts of it. An update that
raises is rolled back.

A run is counted only when it is done and started after the last one that was counted, so
a completion that is reported again changes nothing.
-/

import CareerOS.Search.Receipt

namespace CareerOS

/-! ### The columns -/

/-- The status of the running search. -/
structure SearchStatusColumns where
  searchStatusState : Json
  searchStatusPayload : Option (Dict String Json)
  searchStatusStartedAt : Option Timestamp
  searchStatusUpdatedAt : Option Timestamp
  searchStatusFinishedAt : Option Timestamp

/-- The receipt of the last completed search. -/
structure SearchReceiptColumns where
  lastSearchStartedAt : Option DateTime
  lastSearchCompletedAt : Option DateTime
  lastSearchState : Option String
  searchRunCount : Int
  lastSearchSummary : Option Json
  deriving DecidableEq

/-- A search profile, as far as its searches go. -/
structure SearchedProfile where
  status : SearchStatusColumns
  receipt : SearchReceiptColumns

/-- Why an update raises. -/
inductive StatusUpdateError
  | overflow
  /-- The state is no value that a text column takes. -/
  | unsupportedState
  deriving DecidableEq

section

variable [PythonValues]

/-- `_coerce_status_timestamp`. -/
def coerceStatusTimestamp (value : Json) : Option Timestamp :=
  match value with
  | .null => none
  | .str text => read text
  | other => read (PythonValues.reprOf other)
where
  read (text : String) : Option Timestamp :=
    let text := Text.strip text
    if text = "" then none
    else (PythonValues.fromisoformat (replaceZulu text)).map fun timestamp =>
      if timestamp.offset = none then .utc timestamp.wall else timestamp

/-- May the value be bound to a text column? -/
def bindsText : Json → Bool
  | .arr _ | .obj _ => false
  | .int value => decide (-9223372036854775808 ≤ value ∧ value < 9223372036854775808)
  | .null | .bool _ | .float _ | .str _ => true

/-- A moment of a summary, as a column of moments in UTC keeps it. -/
def summaryMoment (summary : Json) (key : String) : Except StatusUpdateError (Option DateTime) :=
  match summary with
  | .obj fields =>
    match coerceStatusTimestamp (getJson fields key) with
    | none => .ok none
    | some timestamp => (utcMoment timestamp).mapError fun _ => .overflow
  | _ => .ok none

/-- The second update of `update_search_status`, where its filter matches. -/
def completed (receipt : SearchReceiptColumns) (runStartedAt completedAt : DateTime)
    (completionSummary : Json) : SearchReceiptColumns where
  lastSearchStartedAt := some runStartedAt
  lastSearchCompletedAt := some completedAt
  lastSearchState := some "done"
  searchRunCount := receipt.searchRunCount + 1
  lastSearchSummary := some completionSummary

/-- Did the run start after the last one that was counted? -/
def isNewer (receipt : SearchReceiptColumns) (runStartedAt : DateTime) : Bool :=
  match receipt.lastSearchStartedAt with
  | none => true
  | some stored => decide (stored < runStartedAt)

/-- The first update of `update_search_status`. -/
def statusOf (payload : Dict String Json) (now : DateTime) : SearchStatusColumns where
  searchStatusState := getJson payload "state"
  searchStatusPayload := some payload
  searchStatusStartedAt := coerceStatusTimestamp (getJson payload "started_at")
  searchStatusUpdatedAt :=
    some ((coerceStatusTimestamp (getJson payload "updated_at")).getD (.utc now))
  searchStatusFinishedAt := coerceStatusTimestamp (getJson payload "finished_at")

/-- `update_search_status`, of a profile that exists. -/
def updateSearchStatus (profile : SearchedProfile) (payload : Dict String Json) (now : DateTime) :
    Except StatusUpdateError SearchedProfile := do
  let state := getJson payload "state"
  refuseWhen (bindsText state = false) .unsupportedState
  let status := statusOf payload now
  let completionSummary ← (buildSearchCompletionSummary payload).mapError fun _ => .overflow
  match completionSummary with
  | none => return { profile with status }
  | some summary =>
    if state ≠ .str "done" then return { profile with status }
    else
      match ← summaryMoment summary "started_at", ← summaryMoment summary "finished_at" with
      | some runStartedAt, some completedAt =>
        if isNewer profile.receipt runStartedAt then
          return { status, receipt := completed profile.receipt runStartedAt completedAt summary }
        else return { profile with status }
      | _, _ => return { profile with status }

/-- What an update leaves, also when it raises. -/
def afterUpdate (profile : SearchedProfile) (update : Dict String Json × DateTime) :
    SearchedProfile :=
  match updateSearchStatus profile update.1 update.2 with
  | .ok next => next
  | .error _ => profile

/-- What a sequence of updates leaves. -/
def afterUpdates (profile : SearchedProfile) (updates : List (Dict String Json × DateTime)) :
    SearchedProfile :=
  updates.foldl afterUpdate profile

/-- Why an archive refuses a receipt. -/
inductive ReceiptRowError
  | archive (text : String)
  | overflow
  | valueError
  deriving DecidableEq

/-- `aware_utc(datetime.fromisoformat(summary[key]))`. -/
def isoMoment (summary : Json) (key : String) : Except ReceiptRowError (Option DateTime) :=
  match summary with
  | .obj fields =>
    match getJson fields key with
    | .str text =>
      match PythonValues.fromisoformat text with
      | some timestamp => (utcMoment timestamp).mapError fun _ => .overflow
      | none => .error .valueError
    | _ => .error .valueError
  | _ => .error .valueError

/-- `_normalize_search_receipt_row`. -/
def normalizeSearchReceiptRow (row : SearchReceiptColumns) :
    Except ReceiptRowError SearchReceiptColumns := do
  let hasReceipt := row.lastSearchState ≠ none ∨ row.lastSearchSummary ≠ none ∨
    row.lastSearchStartedAt ≠ none ∨ row.lastSearchCompletedAt ≠ none ∨ row.searchRunCount ≠ 0
  if ¬hasReceipt then return row
  match row.lastSearchStartedAt, row.lastSearchCompletedAt with
  | some startedAt, some completedAt =>
    refuseWhen (row.lastSearchState ≠ some "done" ∨ row.searchRunCount < 1 ∨
      searchReceiptMaxCounter < row.searchRunCount)
      (.archive "Archive search completion receipt is invalid")
    let normalized ← (normalizeOptionalSummary row.lastSearchSummary).mapError fun _ => .overflow
    match normalized with
    | none => throw (.archive "Archive search completion summary is invalid")
    | some normalized =>
      let summaryStartedAt ← isoMoment normalized "started_at"
      let summaryCompletedAt ← isoMoment normalized "finished_at"
      refuseWhen (some startedAt ≠ summaryStartedAt ∨ some completedAt ≠ summaryCompletedAt)
        (.archive "Archive search completion receipt timestamps do not match")
      return { row with lastSearchSummary := some normalized }
  | _, _ => throw (.archive "Archive search completion receipt is invalid")

/-! ### One update -/

/-- A payload that is counted. -/
structure CountsRun (receipt : SearchReceiptColumns) (payload : Dict String Json)
    (startedAt finishedAt : DateTime) (summary : Json) : Prop where
  built : BuiltFrom payload startedAt finishedAt summary
  newer : ∀ stored ∈ receipt.lastSearchStartedAt, stored < startedAt

theorem coerceStatusTimestamp_isoformat (moment : DateTime) :
    coerceStatusTimestamp (.str (isoformat moment)) = some (.utc moment) := by
  show coerceStatusTimestamp.read (isoformat moment) = _
  unfold coerceStatusTimestamp.read
  dsimp only
  rw [strip_isoformat, if_neg (length_isoformat moment).2, replaceZulu_isoformat,
    PythonValues.fromisoformat_isoformat]
  rfl

variable {startedAt finishedAt : DateTime} {payload : Dict String Json} {summary : Json}

/-- The moments of a summary that was built. -/
theorem summaryMoment_of_built
    (built : BuiltFrom payload startedAt finishedAt summary) :
    summaryMoment summary "started_at" = .ok (some startedAt) ∧
      summaryMoment summary "finished_at" = .ok (some finishedAt) := by
  obtain ⟨fields, _, _, whole, -, -, started, finished, -⟩ :=
    exists_fields_summaryOf startedAt finishedAt (getJson payload)
  rw [built.content, whole]
  unfold summaryMoment
  dsimp only
  rw [started, finished, coerceStatusTimestamp_isoformat, coerceStatusTimestamp_isoformat]
  dsimp only
  rw [utcMoment_of (awareUtc_utc startedAt), utcMoment_of (awareUtc_utc finishedAt)]
  exact ⟨rfl, rfl⟩

theorem isoMoment_of_built
    (built : BuiltFrom payload startedAt finishedAt summary) :
    isoMoment summary "started_at" = .ok (some startedAt) ∧
      isoMoment summary "finished_at" = .ok (some finishedAt) := by
  obtain ⟨fields, _, _, whole, -, -, started, finished, -⟩ :=
    exists_fields_summaryOf startedAt finishedAt (getJson payload)
  rw [built.content, whole]
  unfold isoMoment
  dsimp only
  rw [started, finished]
  dsimp only
  rw [PythonValues.fromisoformat_isoformat, PythonValues.fromisoformat_isoformat]
  dsimp only
  rw [utcMoment_of (awareUtc_utc startedAt), utcMoment_of (awareUtc_utc finishedAt)]
  exact ⟨rfl, rfl⟩

omit [PythonValues] in
theorem isNewer_iff (receipt : SearchReceiptColumns) (startedAt : DateTime) :
    isNewer receipt startedAt = true ↔
      ∀ stored ∈ receipt.lastSearchStartedAt, stored < startedAt := by
  unfold isNewer
  cases receipt.lastSearchStartedAt with
  | none => exact ⟨fun _ => nofun, fun _ => rfl⟩
  | some stored =>
    refine decide_eq_true_iff.trans ⟨fun newer other same => ?_, fun newer => newer stored rfl⟩
    rw [← Option.some.inj same]
    exact newer

/-- An update with a summary: it is counted exactly when it is newer. -/
theorem receipt_of_built (profile : SearchedProfile) {update : Dict String Json × DateTime}
    (built : BuiltFrom update.1 startedAt finishedAt summary) :
    (afterUpdate profile update).receipt =
      if isNewer profile.receipt startedAt then
        completed profile.receipt startedAt finishedAt summary
      else profile.receipt := by
  obtain ⟨started, finished⟩ := summaryMoment_of_built built
  have summaryIs := buildSearchCompletionSummary_some_iff.mpr ⟨startedAt, finishedAt, built⟩
  have updated : updateSearchStatus profile update.1 update.2 = .ok {
      status := statusOf update.1 update.2
      receipt := if isNewer profile.receipt startedAt then
        completed profile.receipt startedAt finishedAt summary else profile.receipt } := by
    have bound : ¬bindsText (getJson update.1 "state") = false := by
      rw [built.state]
      exact Bool.noConfusion
    unfold updateSearchStatus
    refine bind_ok_iff.mpr ⟨(), refuseWhen_ok_iff.mpr bound, bind_ok_iff.mpr
      ⟨some summary, mapError_ok_iff.mpr summaryIs, ?_⟩⟩
    dsimp only
    rw [if_neg (not_not.mpr built.state)]
    refine bind_ok_iff.mpr ⟨some startedAt, started, bind_ok_iff.mpr
      ⟨some finishedAt, finished, ?_⟩⟩
    dsimp only
    cases isNewer profile.receipt startedAt with
    | true => rfl
    | false => rfl
  unfold afterUpdate
  rw [updated]

/-- An update without a summary leaves the receipt. -/
theorem receipt_of_not_built (profile : SearchedProfile) {update : Dict String Json × DateTime}
    (unbuilt : ∀ summary, buildSearchCompletionSummary update.1 ≠ .ok (some summary)) :
    (afterUpdate profile update).receipt = profile.receipt := by
  unfold afterUpdate
  cases updated : updateSearchStatus profile update.1 update.2 with
  | error _ => rfl
  | ok next =>
    unfold updateSearchStatus at updated
    obtain ⟨_, -, updated⟩ := bind_ok_iff.mp updated
    obtain ⟨completionSummary, summaryIs, updated⟩ := bind_ok_iff.mp updated
    cases completionSummary with
    | none =>
      obtain rfl := Except.ok.inj updated
      rfl
    | some summary => exact absurd (mapError_ok_iff.mp summaryIs) (unbuilt summary)

/-- An update leaves the receipt, or counts a run that is done and newer. -/
theorem receipt_afterUpdate (profile : SearchedProfile) (update : Dict String Json × DateTime) :
    ((afterUpdate profile update).receipt = profile.receipt ∧
      ∀ startedAt finishedAt summary,
        ¬CountsRun profile.receipt update.1 startedAt finishedAt summary) ∨
    ∃ startedAt finishedAt summary,
      CountsRun profile.receipt update.1 startedAt finishedAt summary ∧
        (afterUpdate profile update).receipt =
          completed profile.receipt startedAt finishedAt summary := by
  by_cases counted : ∃ startedAt finishedAt summary,
      CountsRun profile.receipt update.1 startedAt finishedAt summary
  · obtain ⟨startedAt, finishedAt, summary, counts⟩ := counted
    refine .inr ⟨startedAt, finishedAt, summary, counts, ?_⟩
    rw [receipt_of_built profile counts.built, if_pos ((isNewer_iff _ _).mpr counts.newer)]
  · have uncounted : ∀ startedAt finishedAt summary,
        ¬CountsRun profile.receipt update.1 startedAt finishedAt summary :=
      fun startedAt finishedAt summary counts => counted ⟨startedAt, finishedAt, summary, counts⟩
    refine .inl ⟨?_, uncounted⟩
    by_cases built : ∃ summary, buildSearchCompletionSummary update.1 = .ok (some summary)
    · obtain ⟨summary, summaryIs⟩ := built
      obtain ⟨startedAt, finishedAt, from_⟩ := buildSearchCompletionSummary_some_iff.mp summaryIs
      have old : ¬isNewer profile.receipt startedAt = true := fun newer =>
        uncounted startedAt finishedAt summary ⟨from_, (isNewer_iff _ _).mp newer⟩
      rw [receipt_of_built profile from_, if_neg old]
    · exact receipt_of_not_built profile fun summary summaryIs => built ⟨summary, summaryIs⟩

/-! ### Archives -/

/-- An archive takes the receipt of a run while its count is in the bounds. -/
theorem normalizeSearchReceiptRow_of_built
    (built : BuiltFrom payload startedAt finishedAt summary) (count : Int) :
    normalizeSearchReceiptRow ⟨some startedAt, some finishedAt, some "done", count, some summary⟩ =
      if count < 1 ∨ searchReceiptMaxCounter < count then
        .error (.archive "Archive search completion receipt is invalid")
      else .ok ⟨some startedAt, some finishedAt, some "done", count, some summary⟩ := by
  obtain ⟨started, finished⟩ := isoMoment_of_built built
  have normal : normalizeOptionalSummary (some summary) = .ok (some summary) :=
    normalize_of_built (buildSearchCompletionSummary_some_iff.mpr ⟨startedAt, finishedAt, built⟩)
  unfold normalizeSearchReceiptRow
  dsimp only
  rw [if_neg (not_not.mpr (.inl (Option.some_ne_none _)))]
  by_cases outside : count < 1 ∨ searchReceiptMaxCounter < count
  · rw [if_pos outside]
    unfold refuseWhen
    rw [if_pos (.inr outside)]
    rfl
  · rw [if_neg outside]
    refine bind_ok_iff.mpr ⟨(), refuseWhen_ok_iff.mpr ?_, bind_ok_iff.mpr ⟨some summary,
      mapError_ok_iff.mpr normal, ?_⟩⟩
    · rintro (other | outside')
      · exact other rfl
      · exact outside outside'
    · refine bind_ok_iff.mpr ⟨some startedAt, started, bind_ok_iff.mpr ⟨some finishedAt, finished,
        bind_ok_iff.mpr ⟨(), refuseWhen_ok_iff.mpr ?_, rfl⟩⟩⟩
      rintro (other | other)
      · exact other rfl
      · exact other rfl

variable {row : SearchReceiptColumns}

/-- A receipt that an archive takes is none at all, or the receipt of a run. -/
theorem accepted_cases (accepted : normalizeSearchReceiptRow row = .ok row) :
    row = ⟨none, none, none, 0, none⟩ ∨
      ∃ payload summary, buildSearchCompletionSummary payload = .ok (some summary) ∧
        (1 ≤ row.searchRunCount ∧ row.searchRunCount ≤ searchReceiptMaxCounter) ∧
        row.lastSearchSummary = some summary := by
  unfold normalizeSearchReceiptRow at accepted
  dsimp only at accepted
  split at accepted
  · rename_i absent
    obtain ⟨startedAt, completedAt, state, count, summary⟩ := row
    simp only [ne_eq, not_or, not_not] at absent
    obtain ⟨rfl, rfl, rfl, rfl, rfl⟩ := absent
    exact .inl rfl
  · split at accepted
    · obtain ⟨_, bounded, accepted⟩ := bind_ok_iff.mp accepted
      obtain ⟨normalized, normal, accepted⟩ := bind_ok_iff.mp accepted
      cases normalized with
      | none => cases accepted
      | some normalized =>
        obtain ⟨_, -, accepted⟩ := bind_ok_iff.mp accepted
        obtain ⟨_, -, accepted⟩ := bind_ok_iff.mp accepted
        obtain ⟨_, -, accepted⟩ := bind_ok_iff.mp accepted
        have same : some normalized = row.lastSearchSummary :=
          congrArg SearchReceiptColumns.lastSearchSummary (Except.ok.inj accepted)
        rw [← same] at normal
        obtain ⟨payload, built⟩ := exists_payload_of_normal (mapError_ok_iff.mp normal)
        have inside := refuseWhen_ok_iff.mp bounded
        simp only [not_or, not_lt] at inside
        exact .inr ⟨payload, normalized, built, inside.2, same.symm⟩
    · cases accepted

/-- The summary of a receipt that an archive takes is small. -/
theorem encodedSize_le_of_accepted (accepted : normalizeSearchReceiptRow row = .ok row) :
    ∀ summary ∈ row.lastSearchSummary, summary.encodedSize ≤ searchReceiptMaxSerializedBytes := by
  intro summary stored
  rcases accepted_cases accepted with rfl | ⟨payload, other, built, -, same⟩
  · cases stored
  · obtain ⟨_, _, from_⟩ := buildSearchCompletionSummary_some_iff.mp built
    rw [same] at stored
    obtain rfl := Option.some.inj stored
    exact from_.bounded

theorem searchRunCount_nonneg_of_accepted
    (accepted : normalizeSearchReceiptRow row = .ok row) : 0 ≤ row.searchRunCount := by
  rcases accepted_cases accepted with rfl | ⟨_, _, -, bounds, -⟩
  · exact le_rfl
  · omega

/-- Is there room for one more run, if the payload is counted? -/
def CountFits (receipt : SearchReceiptColumns) (payload : Dict String Json) : Prop :=
  ∀ startedAt finishedAt summary, CountsRun receipt payload startedAt finishedAt summary →
    receipt.searchRunCount < searchReceiptMaxCounter

variable {profile : SearchedProfile}

/-- After an update an archive takes the receipt exactly when its count fits. -/
theorem accepted_afterUpdate_iff
    (accepted : normalizeSearchReceiptRow profile.receipt = .ok profile.receipt)
    (update : Dict String Json × DateTime) :
    normalizeSearchReceiptRow (afterUpdate profile update).receipt =
        .ok (afterUpdate profile update).receipt ↔ CountFits profile.receipt update.1 := by
  have counted := searchRunCount_nonneg_of_accepted accepted
  rcases receipt_afterUpdate profile update with ⟨same, uncounted⟩ |
    ⟨startedAt, finishedAt, summary, counts, after⟩
  · rw [same]
    exact ⟨fun _ _ _ _ counts => absurd counts (uncounted _ _ _), fun _ => accepted⟩
  · rw [after]
    unfold completed
    rw [normalizeSearchReceiptRow_of_built counts.built]
    constructor
    · intro taken _ _ _ _
      split at taken
      · cases taken
      · omega
    · intro fits
      have room := fits _ _ _ counts
      exact if_neg (by omega)

/-! ### All updates -/

/-- The runs that a sequence of updates counts: each is done and started after the one before it. -/
theorem exists_countedStarts (profile : SearchedProfile)
    (updates : List (Dict String Json × DateTime)) :
    ∃ starts : List DateTime, starts.Pairwise (· < ·) ∧
      (∀ start ∈ starts, (∀ stored ∈ profile.receipt.lastSearchStartedAt, stored < start) ∧
        ∃ update ∈ updates, getJson update.1 "state" = .str "done" ∧
          coerceTimestamp (getJson update.1 "started_at") = .ok (some start)) ∧
      (afterUpdates profile updates).receipt.searchRunCount =
        profile.receipt.searchRunCount + starts.length := by
  induction updates generalizing profile with
  | nil => exact ⟨[], .nil, nofun, (Int.add_zero _).symm⟩
  | cons update updates inductionHypothesis =>
    obtain ⟨starts, increasing, among, count⟩ := inductionHypothesis (afterUpdate profile update)
    have later : ∀ start ∈ starts, ∃ other ∈ update :: updates,
        getJson other.1 "state" = .str "done" ∧
          coerceTimestamp (getJson other.1 "started_at") = .ok (some start) := by
      intro start member
      obtain ⟨-, other, inside, facts⟩ := among start member
      exact ⟨other, List.mem_cons_of_mem _ inside, facts⟩
    show ∃ starts : List DateTime, _ ∧ _ ∧
      (afterUpdates (afterUpdate profile update) updates).receipt.searchRunCount = _
    rcases receipt_afterUpdate profile update with ⟨same, -⟩ |
      ⟨startedAt, finishedAt, summary, counts, after⟩
    · rw [same] at among count
      exact ⟨starts, increasing, fun start member => ⟨(among start member).1, later start member⟩,
        count⟩
    · rw [after] at among count
      have first : ∀ start ∈ starts, startedAt < start := fun start member =>
        (among start member).1 startedAt rfl
      refine ⟨startedAt :: starts, List.pairwise_cons.mpr ⟨first, increasing⟩, ?_, ?_⟩
      · intro start member
        rcases List.mem_cons.mp member with rfl | member
        · exact ⟨counts.newer, update, List.mem_cons_self, counts.built.state,
            counts.built.started⟩
        · exact ⟨fun stored known => (counts.newer stored known).trans (first start member),
            later start member⟩
      · rw [count, List.length_cons]
        show profile.receipt.searchRunCount + 1 + (starts.length : Int) = _
        push_cast
        omega

/-- While the counts fit an archive takes every receipt. -/
theorem accepted_afterUpdates {updates : List (Dict String Json × DateTime)}
    (accepted : normalizeSearchReceiptRow profile.receipt = .ok profile.receipt)
    (fits : ∀ front update, front ++ [update] <+: updates →
      CountFits (afterUpdates profile front).receipt update.1) :
    ∀ front, front <+: updates →
      normalizeSearchReceiptRow (afterUpdates profile front).receipt =
        .ok (afterUpdates profile front).receipt := by
  intro front
  induction front using List.reverseRecOn with
  | nil => exact fun _ => accepted
  | append_singleton front update inductionHypothesis =>
    intro inside
    have before := inductionHypothesis ((List.prefix_append front [update]).trans inside)
    have step : afterUpdates profile (front ++ [update]) =
        afterUpdate (afterUpdates profile front) update := List.foldl_concat ..
    rw [step]
    exact (accepted_afterUpdate_iff before update).mpr (fits front update inside)

/-- Every update counts one run at most. -/
theorem searchRunCount_afterUpdates_le (profile : SearchedProfile)
    (updates : List (Dict String Json × DateTime)) :
    (afterUpdates profile updates).receipt.searchRunCount ≤
      profile.receipt.searchRunCount + updates.length := by
  induction updates generalizing profile with
  | nil => exact le_of_eq (Int.add_zero _).symm
  | cons update updates inductionHypothesis =>
    have later := inductionHypothesis (afterUpdate profile update)
    have one : (afterUpdate profile update).receipt.searchRunCount ≤
        profile.receipt.searchRunCount + 1 := by
      rcases receipt_afterUpdate profile update with ⟨same, -⟩ | ⟨_, _, _, -, after⟩
      · rw [same]
        omega
      · rw [after]
        exact le_rfl
    show (afterUpdates (afterUpdate profile update) updates).receipt.searchRunCount ≤ _
    rw [List.length_cons]
    push_cast
    omega

/-- There is room for as many updates as the count is below its bound. -/
theorem countFits_of_length {updates : List (Dict String Json × DateTime)}
    (room : profile.receipt.searchRunCount + updates.length ≤ searchReceiptMaxCounter) :
    ∀ front update, front ++ [update] <+: updates →
      CountFits (afterUpdates profile front).receipt update.1 := by
  intro front update inside _ _ _ _
  have count := searchRunCount_afterUpdates_le profile front
  have shorter := inside.length_le
  rw [List.length_append, List.length_singleton] at shorter
  omega

/-- What holds of the receipts along a sequence of updates. -/
structure ReceiptsSound (profile : SearchedProfile)
    (updates : List (Dict String Json × DateTime)) : Prop where
  /-- At most one run is counted for each start. -/
  counted : ∀ front, front <+: updates → ∃ starts : List DateTime, starts.Pairwise (· < ·) ∧
    (∀ start ∈ starts, (∀ stored ∈ profile.receipt.lastSearchStartedAt, stored < start) ∧
      ∃ update ∈ front, getJson update.1 "state" = .str "done" ∧
        coerceTimestamp (getJson update.1 "started_at") = .ok (some start)) ∧
    (afterUpdates profile front).receipt.searchRunCount =
      profile.receipt.searchRunCount + starts.length
  /-- Only a run that is done and newer than the stored one changes the receipt. -/
  changes : ∀ front update, front ++ [update] <+: updates →
    (afterUpdates profile (front ++ [update])).receipt ≠ (afterUpdates profile front).receipt →
    getJson update.1 "state" = .str "done" ∧
      ∃ startedAt, coerceTimestamp (getJson update.1 "started_at") = .ok (some startedAt) ∧
        ∀ stored ∈ (afterUpdates profile front).receipt.lastSearchStartedAt, stored < startedAt
  bounded : ∀ front, front <+: updates →
    ∀ summary ∈ (afterUpdates profile front).receipt.lastSearchSummary,
      summary.encodedSize ≤ searchReceiptMaxSerializedBytes
  accepted : ∀ front, front <+: updates →
    normalizeSearchReceiptRow (afterUpdates profile front).receipt =
      .ok (afterUpdates profile front).receipt

theorem changes_afterUpdate (profile : SearchedProfile) (update : Dict String Json × DateTime)
    (changed : (afterUpdate profile update).receipt ≠ profile.receipt) :
    getJson update.1 "state" = .str "done" ∧
      ∃ startedAt, coerceTimestamp (getJson update.1 "started_at") = .ok (some startedAt) ∧
        ∀ stored ∈ profile.receipt.lastSearchStartedAt, stored < startedAt := by
  rcases receipt_afterUpdate profile update with ⟨same, -⟩ | ⟨startedAt, _, _, counts, -⟩
  · exact absurd same changed
  · exact ⟨counts.built.state, startedAt, counts.built.started, counts.newer⟩

/-- The receipts of any sequence of updates are sound exactly when the count fits before each run
that is counted. Receipts are fixed points of the normal form, and normalising is idempotent. -/
theorem searchReceipts_sound (profile : SearchedProfile)
    (accepted : normalizeSearchReceiptRow profile.receipt = .ok profile.receipt)
    (updates : List (Dict String Json × DateTime)) :
    (ReceiptsSound profile updates ↔ ∀ front update, front ++ [update] <+: updates →
      CountFits (afterUpdates profile front).receipt update.1) ∧
    (∀ payload summary, buildSearchCompletionSummary payload = .ok (some summary) →
      normalizeSearchCompletionSummary summary = .ok (some summary)) ∧
    ∀ value, (normalizeSearchCompletionSummary value >>= normalizeOptionalSummary) =
      normalizeSearchCompletionSummary value := by
  have step : ∀ front update, afterUpdates profile (front ++ [update]) =
      afterUpdate (afterUpdates profile front) update := fun _ _ => List.foldl_concat ..
  refine ⟨⟨fun sound front update inside => ?_, fun fits => ?_⟩,
    fun _ _ built => normalize_of_built built, normalize_idempotent⟩
  · have before := sound.accepted front ((List.prefix_append front [update]).trans inside)
    have after := sound.accepted (front ++ [update]) inside
    rw [step] at after
    exact (accepted_afterUpdate_iff before update).mp after
  · have taken := accepted_afterUpdates accepted fits
    refine ⟨fun front _ => exists_countedStarts profile front, fun front update _ changed => ?_,
      fun front inside => encodedSize_le_of_accepted (taken front inside), taken⟩
    rw [step] at changed
    exact changes_afterUpdate _ _ changed

end

/-- Python on whole seconds of a day and without texts for counters. -/
instance plainPython : PythonValues where
  fromisoformat text :=
    (DateTime.readIso ['+', '0', '0', ':', '0', '0'] text.toList).map Timestamp.utc
  fromisoformat_isoformat moment := by
    unfold isoformat
    rw [String.toList_ofList, DateTime.readIso_isoWith (by decide)]
    rfl
  intOfText _ := none
  intOfFloat _ := none
  milliseconds startedAt finishedAt := (finishedAt.timeOfDay - startedAt.timeOfDay) / 1000
  reprOf _ := ""

/-- The status of a run that is done. -/
def doneStatus (startedAt finishedAt : DateTime) : Dict String Json := [
  ("state", .str "done"),
  ("started_at", .str (isoformat startedAt)),
  ("finished_at", .str (isoformat finishedAt)),
  ("jobs_found", .int 4),
  ("jobs_new", .int 3),
  ("jobs_duplicates", .int 1),
  ("provider_successes", .int 2)]

/-- A run on the first or the second of May. -/
def runStart (day : Fin 2) : DateTime :=
  ⟨2024, 5, day + 1, 9, 30, 0, 0, by revert day; decide⟩

def runFinish (day : Fin 2) : DateTime :=
  ⟨2024, 5, day + 1, 9, 31, 0, 0, by revert day; decide⟩

/-- Its summary. -/
def runSummary (day : Fin 2) : Json :=
  summaryOf (runStart day) (runFinish day)
    (getJson (doneStatus (runStart day) (runFinish day)))

theorem builtFrom_doneStatus (day : Fin 2) :
    BuiltFrom (doneStatus (runStart day) (runFinish day)) (runStart day)
      (runFinish day) (runSummary day) where
  state := rfl
  started := coerceTimestamp_isoformat (runStart day)
  finished := coerceTimestamp_isoformat (runFinish day)
  ordered := by
    revert day
    decide
  content := rfl
  bounded := by
    revert day
    decide +kernel

/-- The profile of an archive, with the largest count that is accepted. -/
def fullProfile : SearchedProfile where
  status := ⟨.null, none, none, none, none⟩
  receipt := ⟨some (runStart 0), some (runFinish 0), some "done", 2147483647,
    some (runSummary 0)⟩

theorem accepted_fullProfile :
    normalizeSearchReceiptRow fullProfile.receipt = .ok fullProfile.receipt := by
  rw [fullProfile, normalizeSearchReceiptRow_of_built
    (builtFrom_doneStatus 0), if_neg (by decide)]

/-- A profile without a receipt completes one search, and hears of it twice. -/
theorem searchReceipts_sound_repeated :
    ReceiptsSound ⟨⟨.null, none, none, none, none⟩, ⟨none, none, none, 0, none⟩⟩
      [(doneStatus (runStart 0) (runFinish 0), runFinish 0),
        (doneStatus (runStart 0) (runFinish 0), runFinish 1)] :=
  (searchReceipts_sound _ rfl _).1.mpr (countFits_of_length (by decide))

/-- After one more run the archive refuses what the code has stored. -/
theorem searchRunCount_overflows :
    normalizeSearchReceiptRow fullProfile.receipt = .ok fullProfile.receipt ∧
      normalizeSearchReceiptRow (afterUpdate fullProfile
        (doneStatus (runStart 1) (runFinish 1), runFinish 1)).receipt =
          .error (.archive "Archive search completion receipt is invalid") := by
  refine ⟨accepted_fullProfile, ?_⟩
  rw [receipt_of_built fullProfile (builtFrom_doneStatus 1)]
  have newer : isNewer fullProfile.receipt (runStart 1) = true := by decide
  rw [if_pos newer]
  unfold completed
  rw [normalizeSearchReceiptRow_of_built (builtFrom_doneStatus 1),
    if_pos (by decide)]

end CareerOS
