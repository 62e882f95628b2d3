/-
This file is how a run of a search counts its listings. The producer counts what
the providers returned, refreshes the catalog, drops the duplicates and hands the
rest on in batches; the consumer filters, analyses and saves each batch; the
status at the end is made of the totals of both. Every listing that gets as far
as the deduplication is counted in one place. One whose catalog row could not be
refreshed is counted as found and nowhere else.

A run that sees a stop is not completed and is left out; so is everything a
status holds besides its counters.
-/

import CareerOS.Search.Deduplication

namespace CareerOS

/-! ### The producer -/

/-- A listing that a provider returned, with what the refresh of its catalog row made of it. -/
structure FoundListing where
  keys : DedupKeys
  catalogPersisted : Bool
  contentChanged : Bool
  deriving DecidableEq

/-- What one query brought: the listings of its providers, and whether the refresh of the catalog
raised. -/
structure QueryResult where
  found : List FoundListing
  persistenceRaises : Bool

/-- The counters of the producer and the queue. -/
structure Production where
  totalFound : Nat
  runtime : Nat
  history : Nat
  errors : Nat
  runState : RunDedupState
  profileHistory : ProfileHistory
  /-- The batches of the queue, in order. -/
  batches : List (List FoundListing)

/-- `_increment_duplicate_count`. -/
def Production.incrementDuplicateCount (production : Production) :
    DuplicateReason → Production
  | .history => { production with history := production.history + 1 }
  | .runtime => { production with runtime := production.runtime + 1 }

/-- One turn of the deduplication loop, with the listings that went through so far. -/
def deduplicateOne (state : Production × List FoundListing) (listing : FoundListing) :
    Production × List FoundListing :=
  match dropReason listing.keys listing.contentChanged state.1.runState
      state.1.profileHistory with
  | some reason => (state.1.incrementDuplicateCount reason, state.2)
  | none =>
    ({ state.1 with
        runState := state.1.runState.record listing.keys
        profileHistory := state.1.profileHistory.record listing.keys },
      state.2 ++ [listing])

/-- `await job_queue.put(persisted_batch)`, unless there is nothing to put. -/
def Production.put (production : Production) (batch : List FoundListing) : Production :=
  if batch = [] then production else { production with batches := production.batches ++ [batch] }

/-- `execute_and_push`, from the results of the providers on. A refresh in which no row succeeds
raises. -/
def Production.push (production : Production) (query : QueryResult) : Production :=
  let counted := { production with totalFound := production.totalFound + query.found.length }
  if query.found = [] then counted
  else if query.persistenceRaises || !query.found.any FoundListing.catalogPersisted then
    { counted with errors := counted.errors + 1 }
  else
    let persisted := query.found.filter FoundListing.catalogPersisted
    let failed := query.found.length - persisted.length
    let deduplicated :=
      persisted.foldl deduplicateOne ({ counted with errors := counted.errors + failed }, [])
    deduplicated.1.put deduplicated.2

/-- The producer before its first query. -/
def Production.start (profileHistory : ProfileHistory) : Production where
  totalFound := 0
  runtime := 0
  history := 0
  errors := 0
  runState := .new
  profileHistory
  batches := []

/-- `_search_and_produce`, with the queries in the order they came back. -/
def searchAndProduce (profileHistory : ProfileHistory) (queries : List QueryResult) :
    Production :=
  queries.foldl Production.push (.start profileHistory)

/-- `_duplicate_total`. -/
def Production.duplicateTotal (production : Production) : Nat :=
  production.runtime + production.history

/-! ### The consumer -/

/-- What comes of saving one analysed listing. -/
inductive SaveAttempt
  | saved
  | staleCatalog
  | raised
  deriving DecidableEq

/-- What the services answer for one batch. An analysis call that raises returns nothing. -/
structure BatchServices (Analysis : Type) where
  passesFilters : FoundListing → Bool
  circuitOpen : Bool
  analyzeJobBatch : List FoundListing → Option (List Analysis)
  saveSingleJob : FoundListing → Analysis → SaveAttempt

/-- `_pack_entries_by_prompt_budget`. -/
def packEntries (maxItems budget : Nat) (estimateChars : FoundListing → Nat)
    (current : List FoundListing) (currentChars : Nat) :
    List FoundListing → List (List FoundListing)
  | [] => if current = [] then [] else [current]
  | entry :: rest =>
    let entryChars := max 1 (estimateChars entry)
    if current ≠ [] ∧ (maxItems ≤ current.length ∨ budget < currentChars + entryChars) then
      current :: packEntries maxItems budget estimateChars [entry] entryChars rest
    else
      packEntries maxItems budget estimateChars (current ++ [entry]) (currentChars + entryChars)
        rest

/-- How the analysis packs its batches. -/
structure PackingPolicy where
  maxItems : Nat
  budget : Nat
  estimateChars : FoundListing → Nat

section

variable {Analysis : Type}

/-- `analyze_batch`: the pairs, and the errors it counts. -/
def analyzeBatch (services : BatchServices Analysis) (batch : List FoundListing) :
    List (FoundListing × Analysis) × Nat :=
  match services.analyzeJobBatch batch with
  | some results => (batch.zip results, 0)
  | none => ([], 1)

/-- `_run_analysis_batches`. -/
def runAnalysisBatches (policy : PackingPolicy) (services : BatchServices Analysis)
    (jobs : List FoundListing) : List (FoundListing × Analysis) × Nat :=
  let results := (packEntries (max 1 policy.maxItems) (max 1 policy.budget) policy.estimateChars
    [] 0 jobs).map (analyzeBatch services)
  ((results.map Prod.fst).flatten, (results.map Prod.snd).sum)

/-- The counters of the consumer, and the two counters of the status that it writes. -/
structure Consumption where
  filtered : Nat
  analysisFailed : Nat
  pairs : Nat
  saved : Nat
  saveSkipped : Nat
  analysisSkipped : Nat
  cumulativeSkipped : Nat
  errors : Nat
  jobsNew : Nat
  jobsSkipped : Nat

/-- The consumer before its first batch. -/
def Consumption.start : Consumption := ⟨0, 0, 0, 0, 0, 0, 0, 0, 0, 0⟩

/-- The counters after the filter; the status is written when something was dropped. -/
def Consumption.filter (consumption : Consumption) (dropped : Nat) : Consumption :=
  { consumption with
    filtered := consumption.filtered + dropped
    cumulativeSkipped := consumption.cumulativeSkipped + dropped
    jobsSkipped :=
      if dropped = 0 then consumption.jobsSkipped else consumption.cumulativeSkipped + dropped }

/-- The counters after a batch whose analysis is not available. -/
def Consumption.unavailable (consumption : Consumption) (count : Nat) : Consumption :=
  { consumption with
    analysisFailed := consumption.analysisFailed + count
    analysisSkipped := consumption.analysisSkipped + count
    cumulativeSkipped := consumption.cumulativeSkipped + count
    errors := consumption.errors + 1
    jobsNew := consumption.saved
    jobsSkipped := consumption.cumulativeSkipped + count }

/-- One turn of the saving loop, over what it counts: the saved, the skipped and the errors. -/
def countSave (counts : Nat × Nat × Nat) : SaveAttempt → Nat × Nat × Nat
  | .saved => (counts.1 + 1, counts.2.1, counts.2.2)
  | .staleCatalog => (counts.1, counts.2.1 + 1, counts.2.2)
  | .raised => (counts.1, counts.2.1 + 1, counts.2.2 + 1)

/-- The counters after a batch that was analysed. -/
def Consumption.analysed (consumption : Consumption) (services : BatchServices Analysis)
    (count : Nat) (analysis : List (FoundListing × Analysis) × Nat) : Consumption :=
  let failed := count - analysis.1.length
  let counts := (analysis.1.map fun pair => services.saveSingleJob pair.1 pair.2).foldl countSave
    (0, 0, 0)
  { consumption with
    analysisFailed := consumption.analysisFailed + failed
    pairs := consumption.pairs + analysis.1.length
    saved := consumption.saved + counts.1
    saveSkipped := consumption.saveSkipped + counts.2.1
    analysisSkipped := consumption.analysisSkipped + failed
    cumulativeSkipped := consumption.cumulativeSkipped + failed + counts.2.1
    errors := consumption.errors + analysis.2 + counts.2.2
    jobsNew := consumption.saved + counts.1
    jobsSkipped := consumption.cumulativeSkipped + failed + counts.2.1 }

/-- One batch of `_processing_consumer`. -/
def Consumption.consume (consumption : Consumption) (policy : PackingPolicy)
    (services : BatchServices Analysis) (batch : List FoundListing) : Consumption :=
  let passed := batch.filter services.passesFilters
  let filtered := consumption.filter (batch.length - passed.length)
  if passed = [] then filtered
  else if services.circuitOpen then filtered.unavailable passed.length
  else filtered.analysed services passed.length (runAnalysisBatches policy services passed)

/-- `_processing_consumer`, with what the services answer for each batch. -/
def processingConsumer (policy : PackingPolicy) (services : Nat → BatchServices Analysis)
    (batches : List (List FoundListing)) : Consumption :=
  batches.zipIdx.foldl
    (fun consumption batch => consumption.consume policy (services batch.2) batch.1) .start

end

/-! ### The end of the run -/

inductive FinalState
  | done
  | error
  deriving DecidableEq

/-- The counters of the status at the end, with the state and the reason. -/
structure FinalStatus where
  state : FinalState
  terminalReason : String
  jobsFound : Nat
  jobsNew : Nat
  jobsDuplicates : Nat
  jobsUnique : Nat
  jobsSkipped : Nat
  deriving DecidableEq

/-- Whether the profile had a history, and how the providers fared. -/
structure RunFacts where
  hadProfileHistory : Bool
  providerFailures : Nat
  providerSuccesses : Nat

/-- The history duplicates of the end; a total without a breakdown goes to the history of a
profile that has one. -/
def historyDuplicates (facts : RunFacts) (production : Production) : Nat :=
  if 0 < production.duplicateTotal ∧ production.history = 0 ∧ production.runtime = 0 ∧
      facts.hadProfileHistory then production.duplicateTotal
  else production.history

/-- The end of `_run_pipeline`. -/
def finishRun (facts : RunFacts) (production : Production) (consumption : Consumption) :
    FinalStatus :=
  let status (state : FinalState) (terminalReason : String) (jobsNew jobsSkipped : Nat) :
      FinalStatus := {
    state
    terminalReason
    jobsFound := production.totalFound
    jobsNew
    jobsDuplicates := production.duplicateTotal
    jobsUnique := production.totalFound - production.duplicateTotal
    jobsSkipped }
  let unique := production.totalFound - production.duplicateTotal
  let errors := production.errors + consumption.errors
  if production.totalFound = 0 then
    if 0 < facts.providerFailures ∧ facts.providerSuccesses = 0 then
      status .error "search_execution_failed" consumption.jobsNew consumption.jobsSkipped
    else status .done "no_results" consumption.jobsNew consumption.jobsSkipped
  else if unique = 0 then
    if historyDuplicates facts production = production.duplicateTotal ∧
        0 < production.duplicateTotal then
      status .done "all_duplicates" consumption.jobsNew consumption.jobsSkipped
    else status .done "no_jobs_after_dedup" consumption.jobsNew consumption.jobsSkipped
  else if consumption.pairs = 0 then
    if 0 < consumption.analysisFailed then
      status .error "local_analysis_failed" consumption.jobsNew
        (consumption.filtered + consumption.analysisFailed)
    else if 0 < errors ∧ 0 < unique - consumption.filtered - consumption.analysisFailed then
      status .error "pipeline_processing_failed" consumption.jobsNew
        (consumption.filtered + consumption.analysisSkipped)
    else status .done "no_jobs_after_structured_filters" consumption.jobsNew
      (consumption.filtered + consumption.analysisSkipped)
  else if 0 < consumption.analysisFailed then
    status .error "local_analysis_failed" consumption.saved
      (consumption.filtered + consumption.saveSkipped + consumption.analysisFailed)
  else if consumption.saved = 0 ∧ 0 < errors then
    status .error "job_persistence_failed" consumption.jobsNew
      (consumption.filtered + consumption.saveSkipped + consumption.analysisSkipped)
  else status .done "completed" consumption.saved
    (consumption.filtered + consumption.saveSkipped + consumption.analysisSkipped)

/-- A run of the search that is not stopped. -/
def runPipeline {Analysis : Type} (facts : RunFacts) (profileHistory : ProfileHistory)
    (queries : List QueryResult) (policy : PackingPolicy)
    (services : Nat → BatchServices Analysis) : FinalStatus :=
  let production := searchAndProduce profileHistory queries
  finishRun facts production (processingConsumer policy services production.batches)

/-! ### The producer counts every listing -/

/-- The listings that are found and counted nowhere else. -/
def QueryResult.lost (query : QueryResult) : Nat :=
  if query.persistenceRaises then query.found.length
  else (query.found.filter fun listing => !listing.catalogPersisted).length

/-- The listings in the queue. -/
def Production.queued (production : Production) : Nat := (production.batches.map List.length).sum

theorem duplicateTotal_increment (production : Production) (reason : DuplicateReason) :
    (production.incrementDuplicateCount reason).duplicateTotal = production.duplicateTotal + 1 := by
  cases reason with
  | history => rfl
  | runtime => exact Nat.add_right_comm _ _ _

/-- The deduplication drops a listing as a duplicate or lets it through. -/
theorem deduplicate_counts (listings : List FoundListing) :
    ∀ state : Production × List FoundListing,
      (listings.foldl deduplicateOne state).1.totalFound = state.1.totalFound ∧
      (listings.foldl deduplicateOne state).1.batches = state.1.batches ∧
      (listings.foldl deduplicateOne state).1.duplicateTotal +
          (listings.foldl deduplicateOne state).2.length =
        state.1.duplicateTotal + state.2.length + listings.length := by
  induction listings with
  | nil => exact fun state => ⟨rfl, rfl, rfl⟩
  | cons listing rest inductionHypothesis =>
    intro state
    rw [List.foldl_cons, List.length_cons]
    obtain ⟨found, batches, counted⟩ := inductionHypothesis (deduplicateOne state listing)
    have one : (deduplicateOne state listing).1.totalFound = state.1.totalFound ∧
        (deduplicateOne state listing).1.batches = state.1.batches ∧
        (deduplicateOne state listing).1.duplicateTotal +
            (deduplicateOne state listing).2.length =
          state.1.duplicateTotal + state.2.length + 1 := by
      unfold deduplicateOne
      cases dropReason listing.keys listing.contentChanged state.1.runState
          state.1.profileHistory with
      | none =>
        refine ⟨rfl, rfl, ?_⟩
        show state.1.duplicateTotal + (state.2 ++ [listing]).length = _
        rw [List.length_append, List.length_singleton, Nat.add_assoc]
      | some reason =>
        refine ⟨by cases reason <;> rfl, by cases reason <;> rfl, ?_⟩
        show (state.1.incrementDuplicateCount reason).duplicateTotal + state.2.length = _
        rw [duplicateTotal_increment]
        omega
    obtain ⟨oneFound, oneBatches, oneCounted⟩ := one
    refine ⟨found.trans oneFound, batches.trans oneBatches, ?_⟩
    rw [counted, oneCounted]
    omega

theorem put_counts (production : Production) (batch : List FoundListing)
    (filled : ∀ queued ∈ production.batches, queued ≠ []) :
    (production.put batch).totalFound = production.totalFound ∧
      (production.put batch).duplicateTotal = production.duplicateTotal ∧
      (production.put batch).queued = production.queued + batch.length ∧
      ∀ queued ∈ (production.put batch).batches, queued ≠ [] := by
  unfold Production.put
  split
  · rename_i empty
    rw [empty]
    exact ⟨rfl, rfl, rfl, filled⟩
  · rename_i some
    refine ⟨rfl, rfl, ?_, ?_⟩
    · unfold Production.queued
      rw [List.map_append, List.sum_append]
      rfl
    · intro queued member
      rcases List.mem_append.mp member with before | here
      · exact filled queued before
      · rw [List.mem_singleton.mp here]
        exact some

/-- What the producer knows of the listings: each is a duplicate, in the queue, or lost. -/
structure Produced (production : Production) (lost : Nat) : Prop where
  counted : production.totalFound = production.duplicateTotal + production.queued + lost
  filled : ∀ batch ∈ production.batches, batch ≠ []

theorem lost_add_persisted (query : QueryResult) (refreshed : query.persistenceRaises = false) :
    query.lost + (query.found.filter FoundListing.catalogPersisted).length =
      query.found.length := by
  unfold QueryResult.lost
  rw [refreshed, if_neg Bool.false_ne_true, Nat.add_comm]
  exact (List.length_eq_length_filter_add FoundListing.catalogPersisted).symm

/-- One query. -/
theorem Produced.push {production : Production} {lost : Nat} (produced : Produced production lost)
    (query : QueryResult) : Produced (production.push query) (lost + query.lost) := by
  have counted := produced.counted
  unfold Production.push
  dsimp only
  split
  · rename_i empty
    have none : query.lost = 0 := by
      unfold QueryResult.lost
      rw [empty]
      exact ite_self 0
    rw [none, empty]
    exact ⟨counted, produced.filled⟩
  · split
    · rename_i raised
      have all : query.lost = query.found.length := by
        unfold QueryResult.lost
        split
        · rfl
        · rename_i refreshed
          have noneKept : query.found.any FoundListing.catalogPersisted = false := by
            simpa [refreshed] using raised
          rw [List.filter_eq_self.mpr]
          intro listing member
          have dropped := List.any_eq_false.mp noneKept listing member
          simpa using dropped
      refine ⟨?_, produced.filled⟩
      show production.totalFound + query.found.length =
        production.duplicateTotal + production.queued + (lost + query.lost)
      rw [all, counted]
      omega
    · rename_i kept
      have refreshed : query.persistenceRaises = false := by
        cases raises : query.persistenceRaises with
        | false => rfl
        | true =>
          rw [raises, Bool.true_or] at kept
          exact absurd rfl kept
      have split := lost_add_persisted query refreshed
      have deduplicated := deduplicate_counts (query.found.filter FoundListing.catalogPersisted)
        ({ production with
            totalFound := production.totalFound + query.found.length
            errors := production.errors + (query.found.length -
              (query.found.filter FoundListing.catalogPersisted).length) }, [])
      generalize List.foldl deduplicateOne _ _ = result at deduplicated ⊢
      obtain ⟨found, batches, total⟩ := deduplicated
      dsimp only at found batches total
      rw [List.length_nil, Nat.add_zero] at total
      have queued : result.1.queued = production.queued := by
        unfold Production.queued
        rw [batches]
      obtain ⟨putFound, putTotal, putQueued, putFilled⟩ := put_counts result.1 result.2
        (batches ▸ produced.filled)
      refine ⟨?_, putFilled⟩
      have before : production.duplicateTotal = production.runtime + production.history := rfl
      have seen : Production.duplicateTotal { production with
          totalFound := production.totalFound + query.found.length
          errors := production.errors + (query.found.length -
            (query.found.filter FoundListing.catalogPersisted).length) } =
          production.duplicateTotal := rfl
      rw [putFound, putTotal, putQueued, found, queued]
      rw [seen] at total
      omega

theorem produced_searchAndProduce (profileHistory : ProfileHistory) (queries : List QueryResult) :
    Produced (searchAndProduce profileHistory queries)
      ((queries.map QueryResult.lost).sum) := by
  have run (production : Production) (lost : Nat) (produced : Produced production lost) :
      Produced (queries.foldl Production.push production)
        (lost + (queries.map QueryResult.lost).sum) := by
    induction queries generalizing production lost with
    | nil => exact produced
    | cons query rest inductionHypothesis =>
      rw [List.foldl_cons, List.map_cons, List.sum_cons, ← Nat.add_assoc]
      exact inductionHypothesis _ _ (produced.push query)
  have whole := run (.start profileHistory) 0 ⟨rfl, nofun⟩
  rw [Nat.zero_add] at whole
  exact whole

/-! ### The consumer counts every listing of the queue -/

section

variable {Analysis : Type}

/-- Packing keeps the entries. -/
theorem flatten_packEntries (maxItems budget : Nat) (estimateChars : FoundListing → Nat)
    (entries : List FoundListing) :
    ∀ (current : List FoundListing) (currentChars : Nat),
      (packEntries maxItems budget estimateChars current currentChars entries).flatten =
        current ++ entries := by
  induction entries with
  | nil =>
    intro current currentChars
    unfold packEntries
    split
    · rename_i empty
      rw [empty]
      rfl
    · simp
  | cons entry rest inductionHypothesis =>
    intro current currentChars
    unfold packEntries
    dsimp only
    split
    · rw [List.flatten_cons, inductionHypothesis, List.singleton_append]
    · rw [inductionHypothesis, List.append_assoc, List.singleton_append]

theorem length_analyzeBatch_le (services : BatchServices Analysis) (batch : List FoundListing) :
    (analyzeBatch services batch).1.length ≤ batch.length := by
  unfold analyzeBatch
  split
  · rw [List.length_zip]
    exact Nat.min_le_left _ _
  · exact Nat.zero_le _

/-- An analysis returns no more pairs than it was given listings. -/
theorem length_runAnalysisBatches_le (policy : PackingPolicy) (services : BatchServices Analysis)
    (jobs : List FoundListing) :
    (runAnalysisBatches policy services jobs).1.length ≤ jobs.length := by
  have packed := flatten_packEntries (max 1 policy.maxItems) (max 1 policy.budget)
    policy.estimateChars jobs [] 0
  unfold runAnalysisBatches
  dsimp only
  generalize packEntries _ _ _ _ _ jobs = batches at packed ⊢
  have sizes : jobs.length = (batches.map List.length).sum := by
    rw [← List.length_flatten, packed, List.nil_append]
  rw [sizes, List.map_map, List.length_flatten, List.map_map]
  refine List.sum_le_sum fun batch _ => ?_
  exact length_analyzeBatch_le services batch

/-- The saving loop saves or skips every pair. -/
theorem countSave_counts (attempts : List SaveAttempt) :
    ∀ counts : Nat × Nat × Nat,
      (attempts.foldl countSave counts).1 + (attempts.foldl countSave counts).2.1 =
        counts.1 + counts.2.1 + attempts.length := by
  induction attempts with
  | nil => exact fun _ => rfl
  | cons attempt rest inductionHypothesis =>
    intro counts
    rw [List.foldl_cons, inductionHypothesis, List.length_cons]
    cases attempt with
    | saved =>
      show counts.1 + 1 + counts.2.1 + rest.length = _
      omega
    | staleCatalog =>
      show counts.1 + (counts.2.1 + 1) + rest.length = _
      omega
    | raised =>
      show counts.1 + (counts.2.1 + 1) + rest.length = _
      omega

/-- What the consumer knows of the listings it took from the queue. -/
structure Consumed (consumption : Consumption) (taken : Nat) : Prop where
  counted : consumption.filtered + consumption.analysisFailed + consumption.pairs = taken
  attempted : consumption.saved + consumption.saveSkipped = consumption.pairs
  skipped : consumption.analysisSkipped = consumption.analysisFailed
  written : consumption.jobsNew = consumption.saved

/-- One batch. -/
theorem Consumed.consume {consumption : Consumption} {taken : Nat}
    (consumed : Consumed consumption taken) (policy : PackingPolicy)
    (services : BatchServices Analysis) (batch : List FoundListing) :
    Consumed (consumption.consume policy services batch) (taken + batch.length) := by
  obtain ⟨counted, attempted, skipped, written⟩ := consumed
  have passes : (batch.filter services.passesFilters).length ≤ batch.length :=
    List.length_filter_le _ _
  unfold Consumption.consume
  dsimp only
  split
  · rename_i none
    rw [none, List.length_nil, Nat.sub_zero]
    refine ⟨?_, attempted, skipped, written⟩
    show consumption.filtered + batch.length + consumption.analysisFailed + consumption.pairs = _
    omega
  · generalize batch.filter services.passesFilters = passed at passes ⊢
    split
    · refine ⟨?_, attempted, ?_, rfl⟩
      · show consumption.filtered + (batch.length - passed.length) +
          (consumption.analysisFailed + passed.length) + consumption.pairs = _
        omega
      · show consumption.analysisSkipped + passed.length =
          consumption.analysisFailed + passed.length
        rw [skipped]
    · have fewer := length_runAnalysisBatches_le policy services passed
      generalize runAnalysisBatches policy services passed = analysis at fewer ⊢
      have saves := countSave_counts
        (analysis.1.map fun pair => services.saveSingleJob pair.1 pair.2) (0, 0, 0)
      rw [List.length_map] at saves
      unfold Consumption.analysed
      dsimp only
      generalize List.foldl countSave _ _ = counts at saves ⊢
      refine ⟨?_, ?_, ?_, rfl⟩
      · show consumption.filtered + (batch.length - passed.length) +
          (consumption.analysisFailed + (passed.length - analysis.1.length)) +
          (consumption.pairs + analysis.1.length) = _
        omega
      · show consumption.saved + counts.1 + (consumption.saveSkipped + counts.2.1) =
          consumption.pairs + analysis.1.length
        dsimp only at saves
        omega
      · show consumption.analysisSkipped + (passed.length - analysis.1.length) =
          consumption.analysisFailed + (passed.length - analysis.1.length)
        rw [skipped]

theorem consumed_processingConsumer (policy : PackingPolicy)
    (services : Nat → BatchServices Analysis) (batches : List (List FoundListing)) :
    Consumed (processingConsumer policy services batches) ((batches.map List.length).sum) := by
  have run (numbered : List (List FoundListing × Nat)) (consumption : Consumption) (taken : Nat)
      (consumed : Consumed consumption taken) :
      Consumed (numbered.foldl
          (fun consumption batch => consumption.consume policy (services batch.2) batch.1)
          consumption)
        (taken + (numbered.map fun batch => batch.1.length).sum) := by
    induction numbered generalizing consumption taken with
    | nil => exact consumed
    | cons batch rest inductionHypothesis =>
      rw [List.foldl_cons, List.map_cons, List.sum_cons, ← Nat.add_assoc]
      exact inductionHypothesis _ _ (consumed.consume policy _ _)
  have whole := run batches.zipIdx .start 0 ⟨rfl, rfl, rfl, rfl⟩
  have lengths : batches.zipIdx.map (fun batch => batch.1.length) = batches.map List.length := by
    rw [← Function.comp_def List.length Prod.fst, ← List.map_map, List.zipIdx_map_fst]
  rw [Nat.zero_add, lengths] at whole
  exact whole

end

/-! ### The totals of a completed run -/

/-- The totals of a completed run account for every listing but the lost ones. -/
theorem finishRun_counts {facts : RunFacts} {production : Production} {consumption : Consumption}
    {lost : Nat} (produced : Produced production lost)
    (consumed : Consumed consumption production.queued)
    (untouched : production.batches = [] → consumption = .start)
    (completed : (finishRun facts production consumption).state = .done) :
    (finishRun facts production consumption).jobsFound =
      (finishRun facts production consumption).jobsNew +
        (finishRun facts production consumption).jobsDuplicates +
          (finishRun facts production consumption).jobsSkipped + lost := by
  have counted := produced.counted
  obtain ⟨taken, attempted, skipped, written⟩ := consumed
  have idle (empty : production.queued = 0) : consumption = .start := by
    refine untouched ?_
    rcases batches : production.batches with _ | ⟨batch, rest⟩
    · rfl
    · have filled := produced.filled batch (batches ▸ List.mem_cons_self)
      have positive := List.length_pos_iff.mpr filled
      unfold Production.queued at empty
      rw [batches, List.map_cons, List.sum_cons] at empty
      omega
  unfold finishRun at completed ⊢
  dsimp only at completed ⊢
  split at completed
  · rename_i none
    have start := idle (by omega)
    rw [if_pos none]
    split at completed
    · cases completed
    · rename_i answered
      rw [if_neg answered]
      dsimp only
      rw [start]
      show production.totalFound = 0 + production.duplicateTotal + 0 + lost
      omega
  · rename_i some
    rw [if_neg some]
    split at completed
    · rename_i noneUnique
      have start := idle (by omega)
      rw [if_pos noneUnique]
      have total : production.totalFound = 0 + production.duplicateTotal + 0 + lost := by omega
      split <;> (dsimp only; rw [start]; exact total)
    · rename_i unique
      rw [if_neg unique]
      split at completed
      · rename_i noPairs
        rw [if_pos noPairs]
        split at completed
        · cases completed
        · rename_i analysed
          rw [if_neg analysed]
          split at completed
          · cases completed
          · rename_i explained
            rw [if_neg explained]
            dsimp only
            omega
      · rename_i pairs
        rw [if_neg pairs]
        split at completed
        · cases completed
        · rename_i analysed
          rw [if_neg analysed]
          split at completed
          · cases completed
          · rename_i persisted
            rw [if_neg persisted]
            dsimp only
            omega

/-- No listing of the queries is lost when the catalog row of each was refreshed. -/
theorem sum_lost_eq_zero_iff (queries : List QueryResult) :
    (queries.map QueryResult.lost).sum = 0 ↔ ∀ query ∈ queries, ∀ listing ∈ query.found,
      query.persistenceRaises = false ∧ listing.catalogPersisted = true := by
  rw [List.sum_eq_zero_iff]
  simp only [List.mem_map, forall_exists_index, and_imp, forall_apply_eq_imp_iff₂]
  refine forall₂_congr fun query _ => ?_
  unfold QueryResult.lost
  cases query.persistenceRaises with
  | true =>
    rw [if_pos rfl, List.length_eq_zero_iff, List.eq_nil_iff_forall_not_mem]
    exact forall_congr' fun listing => ⟨fun absent member => absurd member absent,
      fun impossible member => Bool.noConfusion (impossible member).1⟩
  | false =>
    rw [if_neg Bool.false_ne_true, List.length_eq_zero_iff, List.filter_eq_nil_iff]
    refine forall₂_congr fun listing _ => ?_
    cases listing.catalogPersisted <;> decide

/-- The totals of a completed run account for every found listing exactly when the catalog row of
every found listing was refreshed. -/
theorem runPipeline_accounts {Analysis : Type} (facts : RunFacts) (profileHistory : ProfileHistory)
    (queries : List QueryResult) (policy : PackingPolicy)
    (services : Nat → BatchServices Analysis)
    (completed : (runPipeline facts profileHistory queries policy services).state = .done) :
    (runPipeline facts profileHistory queries policy services).jobsFound =
        (runPipeline facts profileHistory queries policy services).jobsNew +
          (runPipeline facts profileHistory queries policy services).jobsDuplicates +
            (runPipeline facts profileHistory queries policy services).jobsSkipped ↔
      ∀ query ∈ queries, ∀ listing ∈ query.found,
        query.persistenceRaises = false ∧ listing.catalogPersisted = true := by
  have produced := produced_searchAndProduce profileHistory queries
  have consumed := consumed_processingConsumer policy services
    (searchAndProduce profileHistory queries).batches
  have total := finishRun_counts produced consumed
    (fun empty => by rw [empty]; rfl) completed
  rw [← sum_lost_eq_zero_iff]
  unfold runPipeline
  dsimp only
  omega

/-! ### A listing that is counted nowhere -/

/-- A listing of a provider, with or without a catalog row. -/
def countedListing (key : String) (catalogPersisted : Bool) : FoundListing where
  keys := { key := some key, url := "", fuzzy := "", descFp := none }
  catalogPersisted
  contentChanged := false

/-- Services that let everything through. -/
def openServices : BatchServices Unit where
  passesFilters _ := true
  circuitOpen := false
  analyzeJobBatch batch := some (batch.map fun _ => ())
  saveSingleJob _ _ := .saved

/-- One answer of one provider. -/
def oneAnswer : RunFacts := ⟨false, 0, 1⟩

/-- The totals of a run over one query. -/
def oneQuery (found : List FoundListing) : FinalStatus :=
  runPipeline oneAnswer ⟨[], [], [], []⟩ [⟨found, false⟩] ⟨8, 7000, fun _ => 1⟩
    fun _ => openServices

theorem runPipeline_accounts_twice :
    (oneQuery [countedListing "a" true, countedListing "a" true]).jobsFound =
      (oneQuery [countedListing "a" true, countedListing "a" true]).jobsNew +
        (oneQuery [countedListing "a" true, countedListing "a" true]).jobsDuplicates +
          (oneQuery [countedListing "a" true, countedListing "a" true]).jobsSkipped := by
  refine (runPipeline_accounts oneAnswer _ _ _ _ (by decide)).mpr ?_
  intro query one listing member
  cases List.mem_singleton.mp one
  refine ⟨rfl, ?_⟩
  rcases List.mem_pair.mp member with rfl | rfl <;> rfl

/-- A listing without a catalog row is found, and counted nowhere else. -/
theorem runPipeline_loses :
    ¬∀ (facts : RunFacts) (profileHistory : ProfileHistory) (queries : List QueryResult)
      (policy : PackingPolicy) (services : Nat → BatchServices Unit),
      (runPipeline facts profileHistory queries policy services).state = .done →
        (runPipeline facts profileHistory queries policy services).jobsFound =
          (runPipeline facts profileHistory queries policy services).jobsNew +
            (runPipeline facts profileHistory queries policy services).jobsDuplicates +
              (runPipeline facts profileHistory queries policy services).jobsSkipped := by
  intro claimed
  have total := claimed oneAnswer ⟨[], [], [], []⟩
    [⟨[countedListing "a" true, countedListing "b" false], false⟩] ⟨8, 7000, fun _ => 1⟩
    (fun _ => openServices) (by decide)
  revert total
  decide

end CareerOS
