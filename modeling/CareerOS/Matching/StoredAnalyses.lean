/-
This file settles when a stored analysis can be read back. A response bounds the
number of citations and the length of every quote; the citations are one for each
explicit requirement of every dimension and the quotes are whole clauses. What a
stored analysis cites is first said in terms of the evidence documents, then the
bounds of the response are compared with it one by one.
-/

import CareerOS.Matching.Attestation

namespace CareerOS

/-! ### The read schema -/

/-- `\d+`. -/
def isDigits (letters : List Char) : Bool := letters ≠ [] && letters.all Char.isDigit

/-- `[a-z_]+`. -/
def isLowerWord (letters : List Char) : Bool :=
  letters ≠ [] && letters.all fun letter => letter.isLower || letter == '_'

/-- `^job:\d+$`. -/
def isJobEvidenceId (text : String) : Bool :=
  match text.toList.splitOn ':' with
  | [job, index] => job = "job".toList && isDigits index
  | _ => false

/-- `^job:\d+:[a-z_]+:\d+$`. -/
def isJobQuoteId (text : String) : Bool :=
  match text.toList.splitOn ':' with
  | [job, index, word, position] =>
    job = "job".toList && isDigits index && isLowerWord word && isDigits position
  | _ => false

/-- `^candidate:profile:[a-z_]+:\d+$`. -/
def isCandidateQuoteId (text : String) : Bool :=
  match text.toList.splitOn ':' with
  | [candidate, profile, word, position] =>
    candidate = "candidate".toList && profile = "profile".toList && isLowerWord word &&
      isDigits position
  | _ => false

section

variable {Digest : Type}

/-- `JobAnalysisCitation`. The type and the assessment are among the literals of the schema by
their types; a hash that is there is a SHA-256 digest, written as 64 hexadecimal digits. -/
def readsCitation (citation : Citation Digest) : Bool :=
  isJobEvidenceId citation.jobEvidenceId && citation.jobEvidenceId.length ≤ 32 &&
    citation.candidateEvidenceId == "candidate:profile" &&
    isJobQuoteId citation.jobQuoteId && citation.jobQuoteId.length ≤ 64 &&
    isCandidateQuoteId citation.candidateQuoteId && citation.candidateQuoteId.length ≤ 80 &&
    citation.jobQuoteHash.isSome && citation.candidateQuoteHash.isSome &&
    1 ≤ citation.jobEvidence.length && citation.jobEvidence.length ≤ 240 &&
    4 ≤ citation.candidateEvidence.length && citation.candidateEvidence.length ≤ 240

/-- `JobAnalysisStructured`. The other schema that `analysis_structured` may have is that of an
external agent, whose fields a local analysis does not have. -/
def readsStructured (structured : AnalysisStructured Digest) : Bool :=
  1 ≤ structured.evidenceCitations.length && structured.evidenceCitations.length ≤ 7 &&
    structured.evidenceCitations.all readsCitation

/-- `JobResponse` of a stored analysis: its other analysis fields have no bounds. -/
def readsAnalysis (stored : StoredAnalysis Digest) : Bool := readsStructured stored.analysisStructured

end

/-! ### Identifiers -/

theorem isDigits_toString (number : Nat) : isDigits (toString number).toList = true := by
  have digits : (toString number).toList = Nat.toDigits 10 number := String.toList_ofList
  rw [digits]
  unfold isDigits
  rw [Bool.and_eq_true]
  refine ⟨?_, List.all_eq_true.mpr fun letter member => ?_⟩
  · simp
  · exact Nat.isDigit_of_mem_toDigits (by decide) (by decide) member

theorem colon_not_mem_of_isDigits {letters : List Char} (digits : isDigits letters = true) :
    ':' ∉ letters := by
  intro member
  unfold isDigits at digits
  have each := List.all_eq_true.mp ((Bool.and_eq_true _ _).mp digits).2 _ member
  revert each
  decide

theorem isLowerWord_text (dimension : Dimension) : isLowerWord dimension.text.toList = true := by
  cases dimension <;> decide

theorem colon_not_mem_text (dimension : Dimension) : ':' ∉ dimension.text.toList := by
  cases dimension <;> decide

variable {rowIndex : Int}

/-- The letters of the id of a job document. -/
theorem toList_jobId (counted : 0 ≤ rowIndex) : ∃ index : Nat,
    (s!"job:{rowIndex}").toList = "job".toList ++ ':' :: (toString index).toList := by
  obtain ⟨index, rfl⟩ := Int.eq_ofNat_of_zero_le counted
  refine ⟨index, ?_⟩
  rw [String.toList_append]
  rfl

theorem isJobEvidenceId_row (counted : 0 ≤ rowIndex) :
    isJobEvidenceId s!"job:{rowIndex}" = true := by
  obtain ⟨index, letters⟩ := toList_jobId counted
  have digits := isDigits_toString index
  unfold isJobEvidenceId
  rw [letters, List.splitOn_append_cons_self_of_not_mem (by decide),
    List.splitOn_eq_singleton (colon_not_mem_of_isDigits digits)]
  simp only [digits, Bool.and_true, decide_true]

/-- The letters of the id of a quote. -/
theorem toList_quoteId (baseId : String) (dimension : Dimension) (index : Nat) :
    (s!"{baseId}:{dimension.text}:{index}").toList =
      baseId.toList ++ ':' :: (dimension.text.toList ++ ':' :: (toString index).toList) := by
  simp only [String.toList_append]
  rw [List.append_assoc, List.append_assoc, List.append_assoc]
  rfl

/-- The end of the id of a quote. -/
theorem splitOn_quote (dimension : Dimension) (index : Nat) :
    (dimension.text.toList ++ ':' :: (toString index).toList).splitOn ':' =
      [dimension.text.toList, (toString index).toList] := by
  rw [List.splitOn_append_cons_self_of_not_mem (colon_not_mem_text dimension),
    List.splitOn_eq_singleton (colon_not_mem_of_isDigits (isDigits_toString index))]

variable {baseId : String}

theorem isJobQuoteId_quote (counted : 0 ≤ rowIndex)
    (base : baseId = s!"job:{rowIndex}") (dimension : Dimension) (index : Nat) :
    isJobQuoteId s!"{baseId}:{dimension.text}:{index}" = true := by
  obtain ⟨row, letters⟩ := toList_jobId counted
  rw [← base] at letters
  have digits := isDigits_toString row
  have position := isDigits_toString index
  have word := isLowerWord_text dimension
  unfold isJobQuoteId
  rw [toList_quoteId, letters, List.append_assoc, List.cons_append,
    List.splitOn_append_cons_self_of_not_mem (by decide),
    List.splitOn_append_cons_self_of_not_mem (colon_not_mem_of_isDigits digits), splitOn_quote]
  simp only [digits, position, word, Bool.and_true, decide_true]

theorem isCandidateQuoteId_quote (base : baseId = "candidate:profile")
    (dimension : Dimension) (index : Nat) :
    isCandidateQuoteId s!"{baseId}:{dimension.text}:{index}" = true := by
  have letters : baseId.toList = "candidate".toList ++ ':' :: "profile".toList := by
    rw [base]
    decide
  have position := isDigits_toString index
  have word := isLowerWord_text dimension
  unfold isCandidateQuoteId
  rw [toList_quoteId, letters, List.append_assoc, List.cons_append,
    List.splitOn_append_cons_self_of_not_mem (by decide),
    List.splitOn_append_cons_self_of_not_mem (by decide), splitOn_quote]
  simp only [position, word, Bool.and_true, decide_true]

/-! ### The quotes of a document -/

variable {dimension : Dimension}

section

variable {Digest : Type}

theorem selectedJobQuotes_subset (job : EvidenceDocument Digest) (dimension : Dimension) :
    ∀ item ∈ selectedJobQuotes job dimension, item ∈ documentQuotes job dimension := by
  intro item member
  unfold selectedJobQuotes at member
  simp only at member
  split at member
  · exact List.mem_of_mem_take member
  · exact List.mem_of_mem_filter member

/-- At least one quote of the job is cited in every dimension, and at most one exactly when at most
one is an explicit requirement. -/
theorem length_selectedJobQuotes {job : EvidenceDocument Digest}
    (some : documentQuotes job dimension ≠ []) :
    1 ≤ (selectedJobQuotes job dimension).length ∧
      ((selectedJobQuotes job dimension).length ≤ 1 ↔
        ((documentQuotes job dimension).filter fun item => isExplicit item.2).length ≤ 1) := by
  have positive := List.length_pos_iff.mpr some
  unfold selectedJobQuotes
  simp only
  split
  · rename_i none
    rw [none, List.length_take, List.length_nil]
    omega
  · rename_i explicit
    exact ⟨List.length_pos_iff.mpr explicit, Iff.rfl⟩

/-- The quote that ranks first is one of the quotes. -/
theorem bestCandidateQuote_mem [TextTables] [CaseTables] {candidate : EvidenceDocument Digest}
    (some : documentQuotes candidate dimension ≠ []) (jobText : String) :
    ∃ best, bestCandidateQuote candidate dimension jobText = Option.some best ∧
      best ∈ documentQuotes candidate dimension := by
  have picked : ∀ (pick : String × Quote Digest → String × Quote Digest → Bool)
      (rest : List (String × Quote Digest)) (first : String × Quote Digest),
      rest.foldl (fun best item => if pick best item then item else best) first ∈
        first :: rest := by
    intro pick rest
    induction rest with
    | nil => exact fun first => List.mem_cons_self
    | cons second rest inductionHypothesis =>
      intro first
      rw [List.foldl_cons]
      split
      · exact List.mem_cons_of_mem _ (inductionHypothesis second)
      · rcases List.mem_cons.mp (inductionHypothesis first) with same | inside
        · rw [same]
          exact List.mem_cons_self
        · exact List.mem_cons_of_mem _ (List.mem_cons_of_mem _ inside)
  unfold bestCandidateQuote
  cases quotes : documentQuotes candidate dimension with
  | nil => exact absurd quotes some
  | cons first rest => exact ⟨_, rfl, picked _ rest first⟩

end

theorem uniqueFragments_solid [CaseTables] (seen fragments : List String) :
    ∀ fragment ∈ uniqueFragments seen fragments, fragment ≠ "" := by
  induction fragments generalizing seen with
  | nil => exact nofun
  | cons first rest inductionHypothesis =>
    unfold uniqueFragments
    split
    · rename_i kept
      exact List.forall_mem_cons.mpr ⟨kept.1, inductionHypothesis _⟩
    · exact inductionHypothesis seen

theorem noEvidence_ne_empty (dimension : Dimension) :
    s!"No explicit {dimension.text} evidence." ≠ "" := by
  cases dimension <;> decide

variable {kind : SourceKind}

section

variable [CaseTables] [ClauseGrammar]

/-- Every dimension has a quote. -/
theorem quoteFragments_ne_nil {value fallback : String} (solid : fallback ≠ "") :
    quoteFragments value fallback ≠ [] := by
  have first : ∀ fragment rest, fragment ≠ "" → uniqueFragments [] (fragment :: rest) ≠ [] := by
    intro fragment rest kept
    unfold uniqueFragments
    rw [if_pos ⟨kept, List.not_mem_nil⟩]
    exact List.cons_ne_nil _ _
  unfold quoteFragments
  simp only
  split
  · exact first fallback [] solid
  · rename_i some
    cases fragments : ClauseGrammar.allFragments value with
    | nil => exact absurd fragments some
    | cons fragment rest =>
      exact first fragment rest (ClauseGrammar.allFragments_solid value fragment
        (by rw [fragments]; exact List.mem_cons_self))

variable {Digest : Type} [Fingerprints Digest]

/-- The quotes of a dimension are the fragments of its text, by their index. -/
theorem filter_atomicQuotes (baseId : String) (dimensions : Dimension → String) (kind : SourceKind)
    (dimension : Dimension) :
    (atomicQuotes baseId dimensions kind : Dict String (Quote Digest)).filter
        (fun item => item.2.dimension = dimension) =
      dimensionQuotes baseId kind dimension
        (quoteFragments (dimensions dimension) s!"No explicit {dimension.text} evidence.") := by
  have each : ∀ (other : Dimension) (fragments : List String),
      (dimensionQuotes baseId kind other fragments : Dict String (Quote Digest)).filter
          (fun item => item.2.dimension = dimension) =
        if other = dimension then dimensionQuotes baseId kind other fragments else [] := by
    intro other fragments
    have all : ∀ item ∈ (dimensionQuotes baseId kind other fragments : Dict String (Quote Digest)),
        item.2.dimension = other := by
      intro item member
      obtain ⟨index, bound, rfl⟩ := List.mem_mapIdx.mp member
      rfl
    split
    · rename_i same
      refine List.filter_eq_self.mpr fun item member => ?_
      rw [all item member, same]
      exact decide_eq_true rfl
    · rename_i different
      refine List.filter_eq_nil_iff.mpr fun item member => ?_
      rw [all item member]
      simpa using different
  unfold atomicQuotes
  rw [List.filter_flatMap]
  cases dimension <;> simp [each, Dimension.all]

/-- A quote of a dimension: its id, its text and its hash. -/
theorem mem_dimensionQuotes {fragments : List String} {item : String × Quote Digest}
    (member : item ∈ dimensionQuotes baseId kind dimension fragments) :
    item.2.text ∈ fragments ∧ ∃ index : Nat, item.1 = s!"{baseId}:{dimension.text}:{index}" := by
  obtain ⟨index, bound, rfl⟩ := List.mem_mapIdx.mp member
  exact ⟨List.getElem_mem bound, index, rfl⟩

theorem dimensionQuotes_ne_nil {fragments : List String} (some : fragments ≠ []) :
    (dimensionQuotes baseId kind dimension fragments : Dict String (Quote Digest)) ≠ [] := by
  intro none
  exact some (List.mapIdx_eq_nil_iff.mp none)

/-- The quotes of a job, in a dimension. -/
theorem documentQuotes_job (job : JobFields) (rowIndex : Int) (dimension : Dimension) :
    documentQuotes (jobEvidenceDocument job rowIndex : EvidenceDocument Digest) dimension =
      dimensionQuotes s!"job:{rowIndex}" .job dimension
        (quoteFragments (jobDimensions job.title job.location (cleanHtmlTags job.description)
          dimension) s!"No explicit {dimension.text} evidence.") :=
  filter_atomicQuotes _ _ _ _

/-- The quotes of a candidate, in a dimension. -/
theorem documentQuotes_candidate (profile : CandidateProfileFields) (dimension : Dimension) :
    documentQuotes (candidateEvidenceDocument profile : EvidenceDocument Digest) dimension =
      dimensionQuotes "candidate:profile" .candidate dimension
        (quoteFragments (candidateDimensions profile dimension)
          s!"No explicit {dimension.text} evidence.") :=
  filter_atomicQuotes _ _ _ _

end

/-! ### Identifiers are different -/

/-- A number can be read back from its digits. -/
theorem toString_inj {here there : Nat}
    (same : (toString here).toList = (toString there).toList) : here = there := by
  have digits : ∀ number : Nat, (toString number).toList = Nat.toDigits 10 number :=
    fun number => String.toList_ofList
  rw [digits, digits] at same
  have read := congrArg (fun letters => Nat.ofDigitChars 10 letters 0) same
  simpa using read

/-- The id of a quote says its dimension and its index. -/
theorem quoteId_inj {first second : Dimension} {here there : Nat}
    (same : s!"{baseId}:{first.text}:{here}" = s!"{baseId}:{second.text}:{there}") :
    first = second ∧ here = there := by
  have letters := congrArg String.toList same
  rw [toList_quoteId, toList_quoteId, List.append_cancel_left_eq, List.cons.injEq] at letters
  have parts := congrArg (List.splitOn ':') letters.2
  rw [splitOn_quote, splitOn_quote] at parts
  simp only [List.cons.injEq, and_true] at parts
  have words : Function.Injective Dimension.text := by
    intro first second
    cases first <;> cases second <;> decide
  exact ⟨words (String.toList_inj.mp parts.1), toString_inj parts.2⟩

section

variable [CaseTables] [ClauseGrammar] {Digest : Type} [Fingerprints Digest]

theorem keys_dimensionQuotes (baseId : String) (kind : SourceKind) (dimension : Dimension)
    (fragments : List String) :
    Dict.keys (dimensionQuotes baseId kind dimension fragments : Dict String (Quote Digest)) =
      (List.range fragments.length).map fun index => s!"{baseId}:{dimension.text}:{index}" := by
  refine List.ext_getElem ?_ fun index here there => ?_
  · simp [Dict.keys, dimensionQuotes]
  · simp [Dict.keys, dimensionQuotes]

/-- The quotes of a document have different ids. -/
theorem nodup_keys_atomicQuotes (baseId : String) (dimensions : Dimension → String)
    (kind : SourceKind) :
    (Dict.keys (atomicQuotes baseId dimensions kind : Dict String (Quote Digest))).Nodup := by
  unfold atomicQuotes Dict.keys
  rw [List.map_flatMap, List.nodup_flatMap]
  constructor
  · intro dimension _
    have keys : Dict.keys (dimensionQuotes baseId kind dimension (quoteFragments
        (dimensions dimension) s!"No explicit {dimension.text} evidence.") :
          Dict String (Quote Digest)) = _ := keys_dimensionQuotes _ _ _ _
    unfold Dict.keys at keys
    rw [keys]
    exact List.nodup_range.map fun here there same => (quoteId_inj same).2
  · refine List.Pairwise.imp_of_mem ?_ Dimension.nodup_all
    intro first second _ _ different id here there
    obtain ⟨item, inside, rfl⟩ := List.mem_map.mp here
    obtain ⟨other, outside, same⟩ := List.mem_map.mp there
    obtain ⟨-, index, id⟩ := mem_dimensionQuotes inside
    obtain ⟨-, position, otherId⟩ := mem_dimensionQuotes outside
    rw [id, otherId] at same
    exact different (quoteId_inj same).1.symm

/-- The first letter of the id of a quote. -/
theorem head_of_mem_atomicQuotes {dimensions : Dimension → String}
    {item : String × Quote Digest}
    (member : item ∈ atomicQuotes baseId dimensions kind) {letter : Char} {rest : List Char}
    (base : baseId.toList = letter :: rest) : item.1.toList.head? = some letter := by
  obtain ⟨dimension, -, inside⟩ := List.mem_flatMap.mp member
  obtain ⟨-, index, id⟩ := mem_dimensionQuotes inside
  rw [id, toList_quoteId, base]
  rfl

/-- A quote of either document is the one its id is bound to. -/
theorem lookup_matchQuoteBindings (profile : CandidateProfileFields) (job : JobFields)
    (rowIndex : Int) {item : String × Quote Digest}
    (member : item ∈ (candidateEvidenceDocument profile : EvidenceDocument Digest).quotes ∨
      item ∈ (jobEvidenceDocument job rowIndex : EvidenceDocument Digest).quotes) :
    Dict.lookup item.1 (matchQuoteBindings (candidateEvidenceDocument profile)
      (jobEvidenceDocument job rowIndex)) = some item.2 := by
  have distinct : (Dict.keys (matchQuoteBindings
      (candidateEvidenceDocument profile : EvidenceDocument Digest)
      (jobEvidenceDocument job rowIndex))).Nodup := by
    unfold matchQuoteBindings Dict.keys
    rw [List.map_append, List.nodup_append]
    refine ⟨nodup_keys_atomicQuotes _ _ _, nodup_keys_atomicQuotes _ _ _, ?_⟩
    intro first here second there same
    obtain ⟨candidate, inside, rfl⟩ := List.mem_map.mp here
    obtain ⟨quote, outside, rfl⟩ := List.mem_map.mp there
    have candidateHead := head_of_mem_atomicQuotes inside
      (show "candidate:profile".toList = 'c' :: "andidate:profile".toList by decide)
    have jobHead := head_of_mem_atomicQuotes outside
      (show s!"job:{rowIndex}".toList = 'j' :: ("ob:".toList ++ (toString rowIndex).toList) by
        rw [String.toList_append]; rfl)
    rw [same, jobHead] at candidateHead
    revert candidateHead
    decide
  refine (Dict.mem_iff_lookup distinct item.1 item.2).mp ?_
  exact List.mem_append.mpr member

end

theorem coerceSubScore_bounds (value : Option Int) :
    0 ≤ coerceSubScore value ∧ coerceSubScore value ≤ 100 := by
  unfold coerceSubScore
  split
  · exact ⟨le_max_left _ _, max_le (by decide) (min_le_left _ _)⟩
  · exact ⟨le_refl _, by decide⟩

section

variable [TextTables] [CaseTables] [ClauseGrammar] {Digest : Type} [Fingerprints Digest]

/-! ### When a result can be read -/

/-- The evidence of a match can be cited within the bounds of the response: no dimension of the
job holds two explicit requirements, every quote that is cited for the job has at most 240
characters, and the quote of the candidate that ranks first for it has 4 to 240; the ids fit. -/
structure CitesReadably (candidate job : EvidenceDocument Digest) : Prop where
  oneRequirement : ∀ dimension,
    ((documentQuotes job dimension).filter fun item => isExplicit item.2).length ≤ 1
  jobQuote : ∀ dimension, ∀ item ∈ selectedJobQuotes job dimension,
    item.1.length ≤ 64 ∧ item.2.text.length ≤ 240
  candidateQuote : ∀ dimension, ∀ item ∈ selectedJobQuotes job dimension, ∀ best,
    bestCandidateQuote candidate dimension item.2.text = some best →
      best.1.length ≤ 80 ∧ 4 ≤ best.2.text.length ∧ best.2.text.length ≤ 240

/-- What the response asks of one citation. -/
theorem readsCitation_iff (profile : CandidateProfileFields) (job : JobFields)
    (counted : 0 ≤ rowIndex) (bounded : rowIndex < 3) (dimension : Dimension) (score : Int)
    {item : String × Quote Digest}
    (member : item ∈ selectedJobQuotes (jobEvidenceDocument job rowIndex : EvidenceDocument Digest)
      dimension) {best : String × Quote Digest}
    (ranked : bestCandidateQuote (candidateEvidenceDocument profile) dimension item.2.text =
      some best)
    (candidate : best ∈ documentQuotes (candidateEvidenceDocument profile : EvidenceDocument Digest)
      dimension) :
    readsCitation (materializeCitation (candidateEvidenceDocument profile)
        (jobEvidenceDocument job rowIndex) dimension score item) = true ↔
      (item.1.length ≤ 64 ∧ item.2.text.length ≤ 240) ∧
        (best.1.length ≤ 80 ∧ 4 ≤ best.2.text.length ∧ best.2.text.length ≤ 240) := by
  have jobQuotes := selectedJobQuotes_subset _ _ item member
  rw [documentQuotes_job] at jobQuotes
  rw [documentQuotes_candidate] at candidate
  obtain ⟨text, index, id⟩ := mem_dimensionQuotes jobQuotes
  obtain ⟨-, position, bestId⟩ := mem_dimensionQuotes candidate
  have solid : 1 ≤ item.2.text.length :=
    Text.length_pos_of_ne (uniqueFragments_solid _ _ _ text)
  have jobId : isJobEvidenceId s!"job:{rowIndex}" = true := isJobEvidenceId_row counted
  have jobIdLength : (s!"job:{rowIndex}").length ≤ 32 := by
    have cases : rowIndex = 0 ∨ rowIndex = 1 ∨ rowIndex = 2 := by omega
    rcases cases with rfl | rfl | rfl <;> decide
  have quoteId : isJobQuoteId item.1 = true := by
    rw [id]
    exact isJobQuoteId_quote counted rfl dimension index
  have candidateId : isCandidateQuoteId best.1 = true := by
    rw [bestId]
    exact isCandidateQuoteId_quote rfl dimension position
  unfold readsCitation materializeCitation
  rw [ranked]
  simp only [jobEvidenceDocument, candidateEvidenceDocument, Quote.content, jobId, jobIdLength,
    quoteId, candidateId, solid, Option.map_some, Option.isSome_some, beq_self_eq_true,
    decide_true, Bool.and_true, Bool.true_and, Bool.and_eq_true, decide_eq_true_eq]
  constructor
  · rintro ⟨⟨⟨⟨id, bestId⟩, text⟩, short⟩, long⟩
    exact ⟨⟨id, text⟩, bestId, of_decide_eq_true short, of_decide_eq_true long⟩
  · rintro ⟨⟨id, text⟩, bestId, short, long⟩
    exact ⟨⟨⟨⟨id, bestId⟩, text⟩, decide_eq_true short⟩, decide_eq_true long⟩

/-- The citations fit the response exactly when no dimension holds two explicit requirements. -/
theorem length_materializeMatchCitations (candidate : EvidenceDocument Digest) (job : JobFields)
    (rowIndex : Int) (scores : Dimension → Int) :
    let document : EvidenceDocument Digest := jobEvidenceDocument job rowIndex
    let citations := materializeMatchCitations candidate document scores
    1 ≤ citations.length ∧ (citations.length ≤ 7 ↔ ∀ dimension,
      ((documentQuotes document dimension).filter fun item => isExplicit item.2).length ≤ 1) := by
  intro document citations
  have some : ∀ dimension, documentQuotes document dimension ≠ [] := by
    intro dimension
    rw [documentQuotes_job]
    exact dimensionQuotes_ne_nil (quoteFragments_ne_nil (noEvidence_ne_empty dimension))
  have each := fun dimension => length_selectedJobQuotes (some dimension)
  have total : citations.length =
      (Dimension.all.map fun dimension => (selectedJobQuotes document dimension).length).sum := by
    show (materializeMatchCitations candidate document scores).length = _
    unfold materializeMatchCitations
    simp only [List.length_flatMap, List.length_map]
  rw [total]
  simp only [Dimension.all, List.map_cons, List.map_nil, List.sum_cons, List.sum_nil]
  have skill := each .skill
  have experience := each .experience
  have intent := each .intent
  have language := each .language
  have location := each .location
  have transferability := each .transferability
  have qualification := each .qualification
  refine ⟨by omega, ?_⟩
  constructor
  · intro few dimension
    cases dimension <;> omega
  · intro single
    have singles := fun dimension => (each dimension).2.mpr (single dimension)
    have skill := singles .skill
    have experience := singles .experience
    have intent := singles .intent
    have language := singles .language
    have location := singles .location
    have transferability := singles .transferability
    have qualification := singles .qualification
    omega

/-- A result can be read exactly when its evidence can be cited within the bounds. -/
theorem readsStructured_iff (profile : CandidateProfileFields) (job : JobFields)
    (counted : 0 ≤ rowIndex) (bounded : rowIndex < 3) (scores : Dimension → Int)
    (recommendation : MatchRecommendation) :
    readsStructured ⟨recommendation, materializeMatchCitations
        (candidateEvidenceDocument profile : EvidenceDocument Digest)
        (jobEvidenceDocument job rowIndex) scores⟩ = true ↔
      CitesReadably (candidateEvidenceDocument profile : EvidenceDocument Digest)
        (jobEvidenceDocument job rowIndex) := by
  obtain ⟨positive, few⟩ := length_materializeMatchCitations
    (candidateEvidenceDocument profile : EvidenceDocument Digest) job rowIndex scores
  have ranked : ∀ (dimension : Dimension) (jobText : String), ∃ best,
      bestCandidateQuote (candidateEvidenceDocument profile : EvidenceDocument Digest) dimension jobText =
        some best ∧ best ∈ documentQuotes (candidateEvidenceDocument profile) dimension := by
    intro dimension jobText
    refine bestCandidateQuote_mem ?_ jobText
    rw [documentQuotes_candidate]
    exact dimensionQuotes_ne_nil (quoteFragments_ne_nil (noEvidence_ne_empty dimension))
  have all : (materializeMatchCitations
        (candidateEvidenceDocument profile : EvidenceDocument Digest)
        (jobEvidenceDocument job rowIndex) scores).all readsCitation = true ↔
      ∀ dimension, ∀ item ∈ selectedJobQuotes (jobEvidenceDocument job rowIndex : EvidenceDocument Digest)
          dimension, ∀ best, bestCandidateQuote (candidateEvidenceDocument profile : EvidenceDocument Digest)
            dimension item.2.text = some best →
        (item.1.length ≤ 64 ∧ item.2.text.length ≤ 240) ∧
          (best.1.length ≤ 80 ∧ 4 ≤ best.2.text.length ∧ best.2.text.length ≤ 240) := by
    rw [List.all_eq_true]
    constructor
    · intro each dimension item member best found
      obtain ⟨other, same, candidate⟩ := ranked dimension item.2.text
      obtain rfl := Option.some.inj (same.symm.trans found)
      refine (readsCitation_iff profile job counted bounded dimension (scores dimension) member
        found candidate).mp (each _ ?_)
      exact List.mem_flatMap.mpr ⟨dimension, Dimension.mem_all dimension,
        List.mem_map_of_mem member⟩
    · intro each citation member
      obtain ⟨dimension, -, inside⟩ := List.mem_flatMap.mp member
      obtain ⟨item, selected, rfl⟩ := List.mem_map.mp inside
      obtain ⟨best, found, candidate⟩ := ranked dimension item.2.text
      exact (readsCitation_iff profile job counted bounded dimension (scores dimension) selected
        found candidate).mpr (each dimension item selected best found)
  unfold readsStructured
  rw [Bool.and_eq_true, Bool.and_eq_true, decide_eq_true_eq, decide_eq_true_eq, all, few]
  constructor
  · rintro ⟨⟨-, single⟩, each⟩
    refine ⟨single, ?_, ?_⟩
    · intro dimension item member
      obtain ⟨best, found, -⟩ := ranked dimension item.2.text
      exact (each dimension item member best found).1
    · intro dimension item member best found
      exact (each dimension item member best found).2
  · intro cites
    refine ⟨⟨positive, cites.oneRequirement⟩, ?_⟩
    intro dimension item member best found
    exact ⟨cites.jobQuote dimension item member, cites.candidateQuote dimension item member best
      found⟩

/-! ### A result whose receipt is backed is stored -/

/-- An execution backs the receipt of a row: it is an accepted match by the same model for the
user, and its fingerprints are those of the scores and of the input of the row. -/
structure Backs (execution : AIExecution Digest) (receipt : LocalExecution Digest)
    (userId rowIndex : Nat) (scores : Dimension → Int) (input : Digest) : Prop where
  identified : receipt.executionId = some execution.id
  canonical : canonicalUuid execution.id = true
  accepted : execution.accepted = true ∧ execution.task = "job_match"
  named : Text.blank (Text.strip receipt.modelId) = false
  model : execution.modelId = Text.strip receipt.modelId
  versioned : execution.contractVersion = "1.1.0" ∧ Text.strip receipt.contractVersion = "1.1.0"
  user : execution.userId = some userId
  output : receipt.outputFingerprint ≠ none ∧
    execution.outputFingerprint = receipt.outputFingerprint
  rows : execution.rowFingerprints = receipt.rowFingerprints ∧
    execution.rowInputFingerprints = receipt.rowInputFingerprints
  scored : receipt.rowFingerprints[rowIndex]? = some (Fingerprints.scores scores)
  matched : receipt.rowInputFingerprints[rowIndex]? = some input

/-- What the server materializes is bound to the current quotes. -/
theorem validateCitation_materialized [DecidableEq Digest] (profile : CandidateProfileFields)
    (job : JobFields) (rowIndex : Int) (scores : Dimension → Int) :
    ∀ citation ∈ materializeMatchCitations
        (candidateEvidenceDocument profile : EvidenceDocument Digest)
        (jobEvidenceDocument job rowIndex) scores,
      validateCitation (matchQuoteBindings (candidateEvidenceDocument profile)
        (jobEvidenceDocument job rowIndex)) scores citation = .ok ⟨⟩ := by
  intro citation member
  obtain ⟨dimension, -, inside⟩ := List.mem_flatMap.mp member
  obtain ⟨item, selected, rfl⟩ := List.mem_map.mp inside
  have quotes : documentQuotes (candidateEvidenceDocument profile : EvidenceDocument Digest)
      dimension ≠ [] := by
    rw [documentQuotes_candidate]
    exact dimensionQuotes_ne_nil (quoteFragments_ne_nil (noEvidence_ne_empty dimension))
  obtain ⟨best, found, candidate⟩ := bestCandidateQuote_mem quotes item.2.text
  obtain ⟨quoted, ofDimension⟩ := List.mem_filter.mp (selectedJobQuotes_subset _ _ item selected)
  obtain ⟨bestQuoted, bestOfDimension⟩ := List.mem_filter.mp candidate
  have jobBound := lookup_matchQuoteBindings profile job rowIndex (.inr quoted)
  have candidateBound := lookup_matchQuoteBindings profile job rowIndex (.inl bestQuoted)
  have jobQuote : quoteBinding (matchQuoteBindings (candidateEvidenceDocument profile)
      (jobEvidenceDocument job rowIndex)) dimension item.1 (some item.2.textHash) item.2.text =
      .ok item.2 := by
    unfold quoteBinding
    rw [jobBound]
    exact if_pos ⟨of_decide_eq_true ofDimension, rfl, rfl⟩
  have candidateQuote : quoteBinding (matchQuoteBindings (candidateEvidenceDocument profile)
      (jobEvidenceDocument job rowIndex)) dimension best.1 (some best.2.textHash) best.2.text =
      .ok best.2 := by
    unfold quoteBinding
    rw [candidateBound]
    exact if_pos ⟨of_decide_eq_true bestOfDimension, rfl, rfl⟩
  unfold validateCitation materializeCitation
  simp only [found, Option.map_some]
  rw [bind_ok_iff]
  refine ⟨item.2, jobQuote, ?_⟩
  rw [bind_ok_iff]
  refine ⟨best.2, candidateQuote, ?_⟩
  rw [refuseWhen_ok_iff]
  exact fun different => different rfl

/-- The attestation of a row passes when its receipt is backed. -/
theorem validateMatchAttestation_analyzeRow [MatchWeights] [DecidableEq Digest]
    (profile : CandidateProfileFields) (job : JobFields) (rowIndex userId : Nat) (item : ScoreRow)
    (receipt : LocalExecution Digest) (execution : AIExecution Digest)
    (backs : Backs execution receipt userId rowIndex
      (fun dimension => coerceSubScore (item dimension))
      (matchInputFingerprint (candidateEvidenceDocument profile)
        (jobEvidenceDocument job rowIndex))) :
    validateMatchAttestation
        (analyzeRow (candidateEvidenceDocument profile) (jobEvidenceDocument job rowIndex)
          rowIndex item receipt)
        (some execution) userId
        (matchInputFingerprint (candidateEvidenceDocument profile)
          (jobEvidenceDocument job rowIndex))
        (matchQuoteBindings (candidateEvidenceDocument profile) (jobEvidenceDocument job rowIndex))
        (materializeMatchCitations (candidateEvidenceDocument profile)
          (jobEvidenceDocument job rowIndex) fun dimension => coerceSubScore (item dimension)) =
      .ok () := by
  have payload : validatePersistedMatchPayload (analyzeRow
      (candidateEvidenceDocument profile) (jobEvidenceDocument job rowIndex) rowIndex item
      receipt) = .ok () := by
    unfold validatePersistedMatchPayload analyzeRow
    simp only [bind_ok_iff, refuseWhen_ok_iff]
    refine ⟨(), ?_, (), ?_, (), ?_, (), ?_, ?_⟩
    · rintro ⟨dimension, -, outside⟩
      exact outside (coerceSubScore_bounds (item dimension))
    · exact fun different => different backs.scored
    · exact fun different => different rfl
    · exact fun different => different rfl
    · exact fun different => different rfl
  unfold validateMatchAttestation
  rw [bind_ok_iff]
  refine ⟨(), payload, ?_⟩
  simp only [analyzeRow, backs.identified, bind_ok_iff, refuseWhen_ok_iff]
  refine ⟨(), fun different => different rfl, (), ?_, (), fun different => different
    backs.versioned.2, (), ?_, (), fun different => different rfl, (), ?_, (), ?_, (), ?_, (), ?_,
    (), ?_, (), ?_, (), fun different => different rfl, ?_⟩
  · rw [backs.named]
    exact Bool.false_ne_true
  · rw [backs.canonical]
    exact nofun
  · rw [backs.accepted.1, backs.accepted.2]
    exact fun refused => refused.elim nofun fun different => different rfl
  · exact fun refused => refused.elim (fun different => different backs.model)
      fun different => different backs.versioned.1
  · exact fun different => different backs.user
  · exact fun refused => refused.elim (fun absent => backs.output.1 absent)
      fun different => different backs.output.2
  · rw [backs.rows.1]
    exact fun different => different rfl
  · rw [backs.rows.2, backs.matched]
    exact fun refused => refused.elim (fun different => different rfl)
      fun different => different rfl
  · exact (forM_ok_iff _).mpr (validateCitation_materialized profile job rowIndex _)

/-- A row that the catalog still holds, with a receipt that is backed, is stored. -/
theorem saveSingleJob_analyzeRow [MatchWeights] [DecidableEq Digest] {catalog current : Catalog}
    {captured : CapturedRecord} {row other : ListingRow}
    (loaded : loadCapturedCatalogRecord catalog captured = some row)
    (reloaded : loadCapturedCatalogRecord current captured = some other)
    (profile : CandidateProfileFields) (rowIndex userId : Nat) (item : ScoreRow)
    (receipt : LocalExecution Digest) (execution : AIExecution Digest)
    (backs : Backs execution receipt userId rowIndex
      (fun dimension => coerceSubScore (item dimension))
      (matchInputFingerprint (candidateEvidenceDocument profile)
        (jobEvidenceDocument row.jobFields rowIndex)))
    (stripped : Text.strip execution.id = execution.id) (identified : execution.id ≠ "") :
    saveSingleJob catalog current captured profile userId [execution]
        (analyzeRow (candidateEvidenceDocument profile)
          (jobEvidenceDocument row.jobFields rowIndex) rowIndex item receipt) =
      .ok (some (analyzeRow (candidateEvidenceDocument profile)
        (jobEvidenceDocument row.jobFields rowIndex) rowIndex item receipt).columns) := by
  have attested := validateMatchAttestation_analyzeRow profile row.jobFields rowIndex userId item
    receipt execution backs
  have executed : (analyzeRow (candidateEvidenceDocument profile)
      (jobEvidenceDocument row.jobFields rowIndex) rowIndex item receipt).executionId =
      some execution.id := backs.identified
  have found : [execution].find? (fun other =>
      decide (execution.id ≠ "" ∧ other.id = execution.id)) = some execution :=
    List.find?_cons_of_pos (decide_eq_true ⟨identified, rfl⟩)
  unfold saveSingleJob
  rw [loaded, reloaded]
  simp only [executed, Option.getD_some, stripped, found]
  exact bind_ok_iff.mpr ⟨(), attested, rfl⟩

/-! ### Storing and reading back -/

/-- The row of an analysis is one of at most three. -/
theorem analyzeJobBatch_rowIndex [MatchWeights] {jobs : List JobFields}
    {profile : CandidateProfileFields} {results : List ScoreRow}
    {execution : LocalExecution Digest} {analyses : List (MatchAnalysis Digest)}
    (produced : analyzeJobBatch jobs profile results execution = .ok analyses)
    {analysis : MatchAnalysis Digest} (member : analysis ∈ analyses) : analysis.rowIndex < 3 := by
  unfold analyzeJobBatch at produced
  obtain ⟨_, few, produced⟩ := bind_ok_iff.mp produced
  obtain ⟨-, -, produced⟩ := bind_ok_iff.mp produced
  obtain ⟨_, same, produced⟩ := bind_ok_iff.mp produced
  rw [refuseWhen_ok_iff] at few same
  obtain rfl := pure_ok_iff.mp produced
  obtain ⟨index, bound, rfl⟩ := List.mem_mapIdx.mp member
  rw [List.length_zip] at bound
  show index < 3
  omega

/-- An analysis that is stored cites what the server materializes from the catalog row. -/
theorem saveSingleJob_ok [MatchWeights] [DecidableEq Digest] {catalog current : Catalog}
    {captured : CapturedRecord} {profile : CandidateProfileFields} {userId : Nat}
    {executions : List (AIExecution Digest)} {analysis : MatchAnalysis Digest}
    {stored : StoredAnalysis Digest}
    (saved : saveSingleJob catalog current captured profile userId executions analysis =
      .ok (some stored)) :
    ∃ row, loadCapturedCatalogRecord catalog captured = some row ∧
      stored = analysis.columns ∧ analysis.structured.evidenceCitations =
        materializeMatchCitations (candidateEvidenceDocument profile)
          (jobEvidenceDocument row.jobFields analysis.rowIndex) analysis.scores := by
  unfold saveSingleJob at saved
  cases loaded : loadCapturedCatalogRecord catalog captured with
  | none =>
    rw [loaded] at saved
    cases saved
  | some row =>
    rw [loaded] at saved
    obtain ⟨_, attested, saved⟩ := bind_ok_iff.mp saved
    refine ⟨row, rfl, ?_, ?_⟩
    · cases reloaded : loadCapturedCatalogRecord current captured with
      | none =>
        rw [reloaded] at saved
        cases saved
      | some other =>
        rw [reloaded] at saved
        cases saved
        rfl
    · unfold validateMatchAttestation at attested
      simp only [bind_ok_iff] at attested
      obtain ⟨-, -, -, -, -, -, -, -, attested⟩ := attested
      split at attested
      · cases attested
      · cases attested
      · simp only [bind_ok_iff] at attested
        obtain ⟨-, -, -, -, -, -, -, -, -, -, -, -, -, -, -, -, _, materialized, -⟩ := attested
        exact of_not_not (refuseWhen_ok_iff.mp materialized)

/-- An analysis of a batch that is stored can be read back exactly when the evidence of the stored
row can be cited within the bounds of the response. -/
theorem storedAnalysis_readable [MatchWeights] [DecidableEq Digest] {jobs : List JobFields}
    {profile : CandidateProfileFields} {results : List ScoreRow}
    {execution : LocalExecution Digest} {analyses : List (MatchAnalysis Digest)}
    {catalog current : Catalog} {captured : CapturedRecord} {userId : Nat}
    {executions : List (AIExecution Digest)} {analysis : MatchAnalysis Digest}
    {stored : StoredAnalysis Digest} {row : ListingRow}
    (produced : analyzeJobBatch jobs profile results execution = .ok analyses)
    (member : analysis ∈ analyses)
    (saved : saveSingleJob catalog current captured profile userId executions analysis =
      .ok (some stored))
    (loaded : loadCapturedCatalogRecord catalog captured = some row) :
    readsAnalysis stored = true ↔ CitesReadably
      (candidateEvidenceDocument profile : EvidenceDocument Digest)
      (jobEvidenceDocument row.jobFields analysis.rowIndex) := by
  obtain ⟨other, found, rfl, citations⟩ := saveSingleJob_ok saved
  obtain rfl := Option.some.inj (found.symm.trans loaded)
  have bounded := analyzeJobBatch_rowIndex produced member
  rw [← readsStructured_iff profile other.jobFields (Int.natCast_nonneg _) (by omega)
    analysis.scores analysis.structured.recommendation, ← citations]
  rfl

end

section

/-- Digests by length. -/
@[reducible] def lengthFingerprints : Fingerprints Nat where
  source fields := (fields.map fun field => field.2.length).sum
  quote _ text := text.length
  catalog payload := payload.quotes.length
  matchInput candidate job := candidate.sourceFingerprint + job.sourceFingerprint
  scores _ := 7

/-- The weighted sum in whole points. -/
@[reducible] def wholeWeights : MatchWeights where
  weightedScore scores :=
    (25 * scores .skill + 20 * scores .experience + 20 * scores .intent + 10 * scores .language +
      10 * scores .location + 10 * scores .transferability + 5 * scores .qualification + 50) / 100

attribute [local instance] TextTables.plain CaseTables.ascii ClauseGrammar.plain
  lengthFingerprints wholeWeights

/-- The row of an engineering job with a description. -/
def engineerRow (description : String) : ListingRow where
  id := 1
  platform := "jobroom"
  platformJobId := "4712"
  fields := {
    title := "Engineer"
    company := "Werk"
    description := some description
    location := some "Bern"
    workload := some "80-100%"
    externalUrl := "https://jobs.example/4712"
    applicationUrl := none }
  contentRevision := 1
  contentFingerprint := some "content"

/-- The catalog with that row alone. -/
def engineerCatalog (description : String) : Catalog where
  rows := [engineerRow description]
  idsDistinct := List.nodup_singleton _
  keysDistinct := List.nodup_singleton _

/-- What a run captured of that row. -/
def engineerCaptured : CapturedRecord where
  scrapedJobId := 1
  platform := "jobroom"
  platformId := "4712"
  contentRevision := 1
  contentFingerprint := some "content"

def engineerProfile : CandidateProfileFields where
  roleDescription := "Engineer"
  searchStrategy := "Remote only"
  cvContent := ""
  locationFilter := ""

/-- The fingerprint of the input of that match. -/
def engineerInput (description : String) : Nat :=
  matchInputFingerprint (candidateEvidenceDocument engineerProfile)
    (jobEvidenceDocument (engineerRow description).jobFields 0)

/-- The receipt of the execution that scored the match. -/
def engineerReceipt (description : String) : LocalExecution Nat where
  modelId := "local"
  contractVersion := "1.1.0"
  executionId := some "6ba7b811-9dad-51d1-80b4-00c04fd430c8"
  outputFingerprint := some 0
  rowFingerprints := [7]
  rowInputFingerprints := [engineerInput description]

/-- The stored execution. -/
def engineerExecution (description : String) : AIExecution Nat where
  id := "6ba7b811-9dad-51d1-80b4-00c04fd430c8"
  userId := some 1
  task := "job_match"
  contractVersion := "1.1.0"
  modelId := "local"
  outputFingerprint := some 0
  rowFingerprints := [7]
  rowInputFingerprints := [engineerInput description]
  accepted := true

/-- The analysis with a neutral score in every dimension. -/
def engineerAnalysis (description : String) : MatchAnalysis Nat :=
  analyzeRow (candidateEvidenceDocument engineerProfile)
    (jobEvidenceDocument (engineerRow description).jobFields 0) 0 (fun _ => some 50)
    (engineerReceipt description)

theorem engineerAnalysis_produced (description : String) :
    analyzeJobBatch [(engineerRow description).jobFields] engineerProfile [fun _ => some 50]
      (engineerReceipt description) = .ok [engineerAnalysis description] := by
  have named : Text.blank "local" = false := by decide
  have versioned : Text.strip "1.1.0" = "1.1.0" := by decide
  unfold analyzeJobBatch
  simp only [engineerReceipt, refuseWhen, named, versioned, List.length_cons, List.length_nil]
  rfl

/-- The execution backs that receipt. -/
theorem engineerExecution_backs (description : String) :
    Backs (engineerExecution description) (engineerReceipt description) 1 0
      (fun _ => coerceSubScore (some 50))
      (matchInputFingerprint (candidateEvidenceDocument engineerProfile)
        (jobEvidenceDocument (engineerRow description).jobFields 0)) where
  identified := rfl
  canonical := by
    have uuid : canonicalUuid "6ba7b811-9dad-51d1-80b4-00c04fd430c8" = true := by decide
    exact uuid
  accepted := ⟨rfl, rfl⟩
  named := by
    have word : Text.blank (Text.strip "local") = false := by decide
    exact word
  model := by
    have word : Text.strip "local" = "local" := by decide
    exact word.symm
  versioned := by
    have word : Text.strip "1.1.0" = "1.1.0" := by decide
    exact ⟨rfl, word⟩
  user := rfl
  output := ⟨nofun, rfl⟩
  rows := ⟨rfl, rfl⟩
  scored := rfl
  matched := rfl

theorem engineer_loaded (description : String) :
    loadCapturedCatalogRecord (engineerCatalog description) engineerCaptured =
      some (engineerRow description) := by
  have captured : capturedCatalogRecordMatches engineerCaptured (engineerRow description) =
      capturedCatalogRecordMatches engineerCaptured (engineerRow "") := rfl
  have matched : capturedCatalogRecordMatches engineerCaptured (engineerRow "") = true := by decide
  have found : (engineerCatalog description).rows.find? (fun row =>
      decide (row.id = engineerCaptured.scrapedJobId)) = some (engineerRow description) :=
    List.find?_cons_of_pos (decide_eq_true rfl)
  unfold loadCapturedCatalogRecord
  rw [found]
  exact if_pos (captured.trans matched)

theorem engineerAnalysis_stored (description : String) :
    saveSingleJob (engineerCatalog description) (engineerCatalog description) engineerCaptured
        engineerProfile 1 [engineerExecution description] (engineerAnalysis description) =
      .ok (some (engineerAnalysis description).columns) :=
  saveSingleJob_analyzeRow (engineer_loaded description) (engineer_loaded description)
    engineerProfile 0 1 (fun _ => some 50) (engineerReceipt description)
    (engineerExecution description) (engineerExecution_backs description)
    (by
      have uuid : Text.strip "6ba7b811-9dad-51d1-80b4-00c04fd430c8" =
          "6ba7b811-9dad-51d1-80b4-00c04fd430c8" := by decide
      exact uuid)
    (by
      have uuid : "6ba7b811-9dad-51d1-80b4-00c04fd430c8" ≠ "" := by decide
      exact uuid)

/-- A job that asks for one skill has a stored analysis that can be read. -/
theorem storedAnalysis_readable_oneSkill :
    ∃ stored, saveSingleJob (engineerCatalog "Python required.") (engineerCatalog "Python required.")
        engineerCaptured engineerProfile 1 [engineerExecution "Python required."]
        (engineerAnalysis "Python required.") = .ok (some stored) ∧
      readsAnalysis stored = true ∧ CitesReadably
        (candidateEvidenceDocument engineerProfile : EvidenceDocument Nat)
        (jobEvidenceDocument (engineerRow "Python required.").jobFields 0) := by
  have saved := engineerAnalysis_stored "Python required."
  have readable : readsAnalysis (engineerAnalysis "Python required.").columns = true := by
    decide +kernel
  exact ⟨_, saved, readable, (storedAnalysis_readable (engineerAnalysis_produced _)
    List.mem_cons_self saved (engineer_loaded _)).mp readable⟩

/-- A job that asks for two skills has nine citations: its analysis is stored, and cannot be read. -/
theorem storedAnalysis_not_readable :
    ∃ analyses analysis stored,
      analyzeJobBatch [(engineerRow "Python required. Rust required.").jobFields] engineerProfile
        [fun _ => some 50] (engineerReceipt "Python required. Rust required.") = .ok analyses ∧
      analysis ∈ analyses ∧
      saveSingleJob (engineerCatalog "Python required. Rust required.")
        (engineerCatalog "Python required. Rust required.") engineerCaptured engineerProfile 1
        [engineerExecution "Python required. Rust required."] analysis = .ok (some stored) ∧
      stored.analysisStructured.evidenceCitations.length = 9 ∧ readsAnalysis stored = false := by
  have nine : (engineerAnalysis
      "Python required. Rust required.").columns.analysisStructured.evidenceCitations.length =
      9 := by
    decide +kernel
  refine ⟨_, _, _, engineerAnalysis_produced _, List.mem_cons_self, engineerAnalysis_stored _,
    nine, ?_⟩
  unfold readsAnalysis readsStructured
  rw [nine]
  rfl

end

end CareerOS
