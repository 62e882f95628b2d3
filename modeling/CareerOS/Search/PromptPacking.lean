/-
This file is how the entries of a run are packed into prompts: the candidates of the
normalisation and the jobs of the matching. The two estimates of what an entry takes of
a prompt differ, the two loops are the same loop. Every list is packed: the prompts hold
its entries in their order, none is empty, and none ends before it has to. What comes
back for a job is the answer to its own metadata.
-/

import CareerOS.Library.Packing
import CareerOS.Search.ReceiptHistory
import CareerOS.Search.RunAccounting

namespace CareerOS

section

variable [PythonValues]

/-- `len(str(value or ""))`. -/
def textLength : Option Json → Nat
  | some (.str text) => text.length
  | none | some .null | some (.bool false) | some (.int 0) | some (.float "0.0")
  | some (.float "-0.0") | some (.arr []) | some (.obj []) => 0
  | some value => (PythonValues.reprOf value).length

mutual

/-- `estimate_value_chars`. -/
def estimateValueChars : Json → Nat
  | .null => 0
  | .str text => text.length
  | .obj fields => estimateFieldChars fields
  | .arr items => estimateItemChars items
  | .bool value => (PythonValues.reprOf (.bool value)).length
  | .int value => (PythonValues.reprOf (.int value)).length
  | .float value => (PythonValues.reprOf (.float value)).length

def estimateItemChars : List Json → Nat
  | [] => 0
  | item :: rest => estimateValueChars item + estimateItemChars rest

def estimateFieldChars : Dict String Json → Nat
  | [] => 0
  | (key, item) :: rest => key.length + estimateValueChars item + estimateFieldChars rest

end

/-! ### The estimates -/

/-- `_estimate_normalize_candidate_chars`. -/
def estimateNormalizeCandidateChars (candidate : Dict String Json) : Nat :=
  textLength (Dict.lookup "title" candidate) + textLength (Dict.lookup "company" candidate) +
    textLength (Dict.lookup "location" candidate) + textLength (Dict.lookup "workload" candidate) +
    textLength (Dict.lookup "description" candidate) + 64

/-- The metadata of a job as `_build_analysis_job_metadata` makes them. -/
structure AnalysisMetadata where
  title : Option Json
  description : Option Json
  location : Option Json
  workload : Option Json
  languages : List String
  education : Option Json
  company : Option Json
  normalizedData : Dict String Json

/-- `_estimate_analysis_metadata_chars`. -/
def estimateAnalysisMetadataChars (metadata : AnalysisMetadata) : Nat :=
  textLength metadata.title + textLength metadata.description + textLength metadata.location +
    textLength metadata.workload + textLength metadata.education + textLength metadata.company +
    (metadata.languages.map String.length).sum + estimateFieldChars metadata.normalizedData + 96

/-! ### The loops -/

/-- The limits of a packing loop: each of them is at least one, and an entry counts for one
character at least. -/
def promptLimits {Entry : Type} (maxItems budget : Nat) (estimateChars : Entry → Nat) :
    Packing.Limits Entry where
  maxItems := max 1 maxItems
  budget := max 1 budget
  size entry := max 1 (estimateChars entry)

/-- `_pack_normalize_candidates`. -/
def packNormalizeCandidates (candidates : List (Dict String Json)) (maxItems promptBudget : Nat) :
    List (List (Dict String Json)) :=
  Packing.pack (promptLimits maxItems promptBudget estimateNormalizeCandidateChars) candidates

/-- `_pack_entries_by_prompt_budget`. -/
def packEntriesByPromptBudget {Entry : Type} (entries : List Entry)
    (maxItems promptCharBudget : Nat) (estimateChars : Entry → Nat) : List (List Entry) :=
  Packing.pack (promptLimits maxItems promptCharBudget estimateChars) entries

/-- `_pack_analysis_batches`, for a policy of the run. -/
def packAnalysisBatches {Job : Type} (jobs : List Job) (jobsMetadata : List AnalysisMetadata)
    (maxItems promptCharBudget : Nat) : List (List Job × List AnalysisMetadata) :=
  (packEntriesByPromptBudget (jobs.zip jobsMetadata) maxItems promptCharBudget
    fun entry => estimateAnalysisMetadataChars entry.2).map List.unzip

/-! ### What is packed -/

/-- What a prompt takes of its budget. -/
def promptChars {Entry : Type} (estimateChars : Entry → Nat) (chunk : List Entry) : Nat :=
  (chunk.map fun entry => max 1 (estimateChars entry)).sum

/-- The chunks are a greedy packing of the entries. -/
structure PackedInOrder {Entry : Type} (maxItems budget : Nat) (estimateChars : Entry → Nat)
    (entries : List Entry) (chunks : List (List Entry)) : Prop where
  inOrder : chunks.flatten = entries
  nonempty : ∀ chunk ∈ chunks, chunk ≠ []
  atMost : ∀ chunk ∈ chunks, chunk.length ≤ maxItems
  within : ∀ chunk ∈ chunks, promptChars estimateChars chunk ≤ budget ∨
    ∃ entry, chunk = [entry] ∧ budget < promptChars estimateChars [entry]
  /-- The first entry of the next chunk would not have fitted. -/
  greedy : ∀ front chunk entry rest back, chunks = front ++ chunk :: (entry :: rest) :: back →
    maxItems < (chunk ++ [entry]).length ∨ budget < promptChars estimateChars (chunk ++ [entry])

omit [PythonValues] in
/-- A loop with positive limits packs every list. -/
theorem packedInOrder {Entry : Type} {maxItems budget : Nat} (estimateChars : Entry → Nat)
    (someItems : 0 < maxItems) (someBudget : 0 < budget) (entries : List Entry) :
    PackedInOrder maxItems budget estimateChars entries
      (Packing.pack (promptLimits maxItems budget estimateChars) entries) := by
  have limits : promptLimits maxItems budget estimateChars =
      ⟨maxItems, budget, fun entry => max 1 (estimateChars entry)⟩ := by
    unfold promptLimits
    rw [Nat.max_eq_right someItems, Nat.max_eq_right someBudget]
  rw [limits]
  have positive : 0 < (⟨maxItems, budget, fun entry => max 1 (estimateChars entry)⟩ :
      Packing.Limits Entry).maxItems := someItems
  obtain ⟨whole, fits, closed⟩ := Packing.isPacking_pack positive entries
  refine ⟨whole, fun chunk member => (fits chunk member).nonempty,
    fun chunk member => (fits chunk member).short, fun chunk member => ?_, ?_⟩
  · rcases (fits chunk member).within with small | ⟨entry, alone, large⟩
    · exact .inl small
    · exact .inr ⟨entry, alone, by simpa [promptChars] using large⟩
  · intro front chunk entry rest back same
    rw [same] at closed
    obtain ⟨-, following, -⟩ := List.isChain_append.mp closed
    obtain ⟨first, after, next, exceeded⟩ := (List.isChain_cons_cons.mp following).1
    cases next
    refine exceeded.imp (fun long => ?_) fun large => ?_
    · rwa [List.length_append]
    · simpa [promptChars, Packing.Limits.total] using large

/-- Both loops pack every list under all positive limits, whatever the estimate of the
matching is. -/
theorem prompts_packed (maxItems budget : Nat) (someItems : 0 < maxItems)
    (someBudget : 0 < budget) :
    (∀ candidates : List (Dict String Json), PackedInOrder maxItems budget
      estimateNormalizeCandidateChars candidates
        (packNormalizeCandidates candidates maxItems budget)) ∧
    (∀ {Entry : Type} (estimateChars : Entry → Nat) (entries : List Entry),
      PackedInOrder maxItems budget estimateChars entries
        (packEntriesByPromptBudget entries maxItems budget estimateChars)) :=
  ⟨packedInOrder _ someItems someBudget,
    fun estimateChars => packedInOrder estimateChars someItems someBudget⟩

end

/-- Three entries under a budget of ten: the second is too large for the first prompt, the
third for the second one. -/
theorem prompts_packed_three :
    packEntriesByPromptBudget [4, 12, 3] 2 10 id = [[4], [12], [3]] ∧
      PackedInOrder 2 10 id [4, 12, 3] (packEntriesByPromptBudget [4, 12, 3] 2 10 id) :=
  ⟨by decide, (prompts_packed 2 10 (by decide) (by decide)).2 id [4, 12, 3]⟩

/-! ### The answers -/

section

variable {Job Analysis : Type} (service : List AnalysisMetadata → Option (List Analysis))
  (batch : List Job × List AnalysisMetadata)

/-- `analyze_batch`: the answers of the service beside the jobs it was asked about. -/
def answeredJobs : List (Job × Analysis) :=
  match service batch.2 with
  | some results => batch.1.zip results
  | none => []

theorem answeredJobs_sublist : ((answeredJobs service batch).map Prod.fst).Sublist batch.1 := by
  unfold answeredJobs
  split
  · rw [List.zip_eq_zip_take_min, List.map_fst_zip (by simp)]
    exact List.take_sublist _ _
  · exact List.nil_sublist _

variable {service batch}

/-- An answer stands where its job stands in the batch. -/
theorem mem_answeredJobs {answered : Job × Analysis}
    (member : answered ∈ answeredJobs service batch) :
    ∃ results, ∃ index : Nat, service batch.2 = some results ∧
      batch.1[index]? = some answered.1 ∧ results[index]? = some answered.2 := by
  unfold answeredJobs at member
  split at member
  · rename_i results given
    obtain ⟨index, found⟩ := List.mem_iff_getElem?.mp member
    exact ⟨results, index, given, List.getElem?_zip_eq_some.mp found⟩
  · cases member

theorem flatMap_sublist {Chunk Item Part : Type} {part : Chunk → List Part} {shown : Part → Item}
    {items : Chunk → List Item} {chunks : List Chunk}
    (within : ∀ chunk ∈ chunks, ((part chunk).map shown).Sublist (items chunk)) :
    ((chunks.flatMap part).map shown).Sublist (chunks.flatMap items) := by
  induction chunks with
  | nil => exact List.Sublist.refl _
  | cons chunk rest inductionHypothesis =>
    obtain ⟨here, there⟩ := List.forall_mem_cons.mp within
    rw [List.flatMap_cons, List.map_append, List.flatMap_cons]
    exact here.append (inductionHypothesis there)

variable [PythonValues] (metadataOf : Job → AnalysisMetadata) (jobs : List Job)
  (maxItems budget : Nat)

/-- `_run_analysis_batches`. What the service answers may differ from call to call. -/
def analyzedJobs (service : Nat → List AnalysisMetadata → Option (List Analysis)) :
    List (Job × Analysis) :=
  (packAnalysisBatches jobs (jobs.map metadataOf) maxItems budget).zipIdx.flatMap fun call =>
    answeredJobs (service call.2) call.1

theorem packedAnalyses : Packing.IsPacking
    (promptLimits maxItems budget fun entry => estimateAnalysisMetadataChars entry.2)
    (jobs.zip (jobs.map metadataOf)) (packEntriesByPromptBudget (jobs.zip (jobs.map metadataOf))
      maxItems budget fun entry => estimateAnalysisMetadataChars entry.2) := by
  refine Packing.isPacking_pack ?_ _
  exact Nat.le_max_left 1 maxItems

theorem flatMap_packAnalysisBatches :
    (packAnalysisBatches jobs (jobs.map metadataOf) maxItems budget).flatMap Prod.fst = jobs := by
  unfold packAnalysisBatches
  rw [List.flatMap_map]
  simp only [List.unzip_fst]
  rw [← List.map_flatMap, List.flatMap_id', (packedAnalyses metadataOf jobs maxItems budget).whole]
  exact List.map_fst_zip (by rw [List.length_map])

variable {metadataOf jobs maxItems budget}

/-- A batch asks about its own jobs, within the budget or about one job alone. -/
theorem mem_packAnalysisBatches
    (member : batch ∈ packAnalysisBatches jobs (jobs.map metadataOf) maxItems budget) :
    batch.2 = batch.1.map metadataOf ∧
      (promptChars estimateAnalysisMetadataChars batch.2 ≤ max 1 budget ∨ batch.2.length = 1) := by
  have packed := packedAnalyses metadataOf jobs maxItems budget
  obtain ⟨chunk, inside, rfl⟩ := List.mem_map.mp member
  rw [List.unzip_fst, List.unzip_snd]
  refine ⟨?_, ?_⟩
  · rw [List.map_map]
    refine List.map_congr_left fun entry here => ?_
    have known : entry ∈ jobs.zip (jobs.map metadataOf) :=
      packed.whole ▸ List.mem_flatten_of_mem inside here
    rw [← List.map_prod_left_eq_zip] at known
    obtain ⟨job, -, rfl⟩ := List.mem_map.mp known
    rfl
  · rcases (packed.fits chunk inside).within with small | ⟨entry, rfl, -⟩
    · refine .inl ?_
      unfold promptChars
      rw [List.map_map]
      exact small
    · exact .inr rfl

/-- No job is answered twice or out of its turn, and the answer of a job is what the service
gave for its own metadata, in a prompt that fits the budget or holds that job alone. -/
theorem answers_attributed (service : Nat → List AnalysisMetadata → Option (List Analysis)) :
    ((analyzedJobs metadataOf jobs maxItems budget service).map Prod.fst).Sublist jobs ∧
    ∀ answered ∈ analyzedJobs metadataOf jobs maxItems budget service,
      ∃ call asked results, ∃ index : Nat, service call asked = some results ∧
        asked[index]? = some (metadataOf answered.1) ∧ results[index]? = some answered.2 ∧
        (promptChars estimateAnalysisMetadataChars asked ≤ max 1 budget ∨ asked.length = 1) := by
  constructor
  · have sublist : ((analyzedJobs metadataOf jobs maxItems budget service).map Prod.fst).Sublist
        ((packAnalysisBatches jobs (jobs.map metadataOf) maxItems budget).zipIdx.flatMap
          fun call => call.1.1) :=
      flatMap_sublist fun call _ => answeredJobs_sublist _ call.1
    rwa [← List.flatMap_map Prod.fst Prod.fst, List.zipIdx_map_fst,
      flatMap_packAnalysisBatches] at sublist
  · intro answered member
    obtain ⟨⟨batch, call⟩, inside, here⟩ := List.mem_flatMap.mp member
    obtain ⟨own, fits⟩ := mem_packAnalysisBatches (List.fst_mem_of_mem_zipIdx inside)
    obtain ⟨results, index, given, job, analysis⟩ := mem_answeredJobs here
    refine ⟨call, batch.2, results, index, given, ?_, analysis, fits⟩
    rw [own, List.getElem?_map, job]
    rfl

end

end CareerOS
