/-
This file is the history of one listing of the catalog. A provider listing or a
reviewed vacancy is observed; the first observation makes the row and every
later one refreshes it. The columns are written as they were observed, while the
revision is moved by the fingerprint of the content, which is taken of texts
with their white space collapsed and cut to a number of characters. So the
revision stands for the columns exactly as long as no observation comes with the
stored fingerprint and other columns.
-/

import CareerOS.AgentWork.Discovery
import CareerOS.Library.Machine
import CareerOS.Matching.AnalysisEvidence

namespace CareerOS

/-! ### Observations with their time -/

/-- The columns that evidence is read from. -/
structure EvidenceColumns where
  title : String
  company : String
  location : Option String
  workload : Option String
  description : Option String
  deriving DecidableEq

def CatalogFields.evidence (fields : CatalogFields) : EvidenceColumns where
  title := fields.title
  company := fields.company
  location := fields.location
  workload := fields.workload
  description := fields.description

/-- `ScrapedJob`, with the times of its observations. -/
structure ObservedListing where
  row : ListingRow
  firstSeenAt : DateTime
  lastSeenAt : DateTime
  lastChangedAt : DateTime

/-- The row that the first observation makes. -/
def ObservedListing.created (id : Nat) (observedAt : DateTime) (observation : CatalogObservation) :
    ObservedListing where
  row := newListingRow id observation
  firstSeenAt := observedAt
  lastSeenAt := observedAt
  lastChangedAt := observedAt

/-- `apply_catalog_observation`. -/
def ObservedListing.applyCatalogObservation (listing : ObservedListing) (seenAt : DateTime)
    (observation : CatalogObservation) : ObservedListing where
  row := listing.row.applyCatalogObservation observation
  firstSeenAt := min listing.firstSeenAt seenAt
  lastSeenAt := max listing.lastSeenAt seenAt
  lastChangedAt :=
    if listing.row.catalogContentChanged observation then max listing.lastSeenAt seenAt
    else listing.lastChangedAt

section

variable [TextTables] [ContentDigest]

/-- `_canonical_fields` of a discovery, with its fingerprint. -/
def vacancyObservation (platformJobId : String) (vacancy : DiscoveryVacancy) :
    Except String CatalogObservation := do
  let externalUrl ← normalizeJobUrl (some vacancy.externalUrl) true
  let title := Text.strip vacancy.title
  let company := Text.strip vacancy.company
  let description := Text.strip vacancy.sourceText
  let location := vacancy.location.bind fun text => if text = "" then none else some (Text.strip text)
  return {
    platform := "manual"
    platformJobId
    fields := {
      title
      company
      description := some description
      location
      workload := none
      externalUrl := externalUrl.getD ""
      applicationUrl := none }
    contentFingerprint := contentFingerprint title company (location.getD "") "" description }

/-- An observation of a listing by one of the two writers of the catalog. -/
inductive ListingObserved
  | listing (observedAt : DateTime) (provided : JobListing)
  | vacancy (platformJobId : String) (reviewed : DiscoveryVacancy)

def ListingObserved.seenAt : ListingObserved → DateTime
  | .listing observedAt _ => observedAt
  | .vacancy _ reviewed => reviewed.observedAt

def ListingObserved.observation : ListingObserved → Except String CatalogObservation
  | .listing _ provided => listingObservation provided
  | .vacancy platformJobId reviewed => vacancyObservation platformJobId reviewed

/-- Is an older observation refused, is it left out, or is it written? A provider listing is
always written, a vacancy only when nothing newer has been seen. -/
def ObservedListing.admits (listing : ObservedListing) (observation : CatalogObservation) :
    ListingObserved → Except String Bool
  | .listing _ _ => .ok true
  | .vacancy _ reviewed =>
    if reviewed.observedAt < listing.lastSeenAt then
      if listing.row.catalogContentChanged observation then
        .error "A newer observation of this vacancy is already stored"
      else .ok false
    else .ok true

/-- A later observation of the listing: `upsert_scraped_job` or `_upsert_catalog_row`. -/
def ObservedListing.observe (listing : ObservedListing) (observed : ListingObserved) :
    Except String ObservedListing := do
  let observation ← observed.observation
  refuseWhen (observation.key ≠ listing.row.key) "Another listing"
  let admitted ← listing.admits observation observed
  return if admitted then listing.applyCatalogObservation observed.seenAt observation else listing

/-- The history of a listing, from the observation that made its row. -/
def listingHistory : Machine ObservedListing ListingObserved String where
  initial listing := ∃ (id : Nat) (observed : ListingObserved) (observation : CatalogObservation),
    observed.observation = .ok observation ∧ listing = .created id observed.seenAt observation
  step := ObservedListing.observe

/-! ### What the revision stands for -/

/-- An observation that is written comes with the stored fingerprint only when it comes with the
stored columns. -/
def Distinguished (listing : ObservedListing) (observed : ListingObserved) : Prop :=
  ∀ observation, observed.observation = .ok observation →
    listing.admits observation observed = .ok true →
    listing.row.contentFingerprint = some observation.contentFingerprint →
    observation.fields.evidence = listing.row.fields.evidence

/-- The revision stands for the content over one observation, and the times are in order. -/
structure RevisionCaptures (before after : ObservedListing) : Prop where
  evidence : after.row.contentRevision = before.row.contentRevision →
    after.row.fields.evidence = before.row.fields.evidence
  source : ∀ {Digest : Type} [Fingerprints Digest],
    after.row.contentRevision = before.row.contentRevision →
      (Fingerprints.source (jobSource after.row.jobFields) : Digest) =
        Fingerprints.source (jobSource before.row.jobFields)
  monotone : before.row.contentRevision ≤ after.row.contentRevision
  counted : after.row.contentRevision = before.row.contentRevision + 1 ↔
    after.row.contentFingerprint ≠ before.row.contentFingerprint
  seenFirst : after.firstSeenAt ≤ after.lastChangedAt
  seenLast : after.lastChangedAt ≤ after.lastSeenAt

/-- What every row of the history is. -/
structure WellObserved (listing : ObservedListing) : Prop where
  counted : 1 ≤ listing.row.contentRevision
  fingerprint : ∃ stored, listing.row.contentFingerprint = some stored ∧ Text.blank stored = false
  seenFirst : listing.firstSeenAt ≤ listing.lastChangedAt
  seenLast : listing.lastChangedAt ≤ listing.lastSeenAt

variable {observed : ListingObserved}

/-- The fingerprint of an observation is the one of its texts. -/
theorem ListingObserved.observation_fingerprint
    {observation : CatalogObservation} (own : observed.observation = .ok observation) :
    ∃ title company location workload description, observation.contentFingerprint =
      contentFingerprint title company location workload description := by
  cases observed with
  | listing observedAt provided =>
    obtain ⟨-, -, own⟩ := bind_ok_iff.mp own
    obtain ⟨externalUrl, -, own⟩ := bind_ok_iff.mp own
    obtain ⟨applicationUrl, -, own⟩ := bind_ok_iff.mp own
    split at own
    · cases own
    · cases own
      exact ⟨_, _, _, _, _, rfl⟩
  | vacancy platformJobId reviewed =>
    obtain ⟨externalUrl, -, own⟩ := bind_ok_iff.mp own
    cases own
    exact ⟨_, _, _, _, _, rfl⟩

omit [TextTables] [ContentDigest] in
theorem catalogContentChanged_eq {row : ListingRow} {stored : String}
    (fingerprint : row.contentFingerprint = some stored) (shown : Text.blank stored = false)
    (observation : CatalogObservation) :
    row.catalogContentChanged observation = decide (stored ≠ observation.contentFingerprint) := by
  unfold ListingRow.catalogContentChanged
  rw [fingerprint]
  dsimp only
  rw [shown, if_neg Bool.false_ne_true]

omit [TextTables] [ContentDigest] in
/-- The revision after a written observation. -/
theorem contentRevision_applied {row : ListingRow} (counted : 1 ≤ row.contentRevision)
    (observation : CatalogObservation) :
    (row.applyCatalogObservation observation).contentRevision =
      if row.catalogContentChanged observation then row.contentRevision + 1
      else row.contentRevision := by
  unfold ListingRow.applyCatalogObservation
  have positive : ¬row.contentRevision < 1 := not_lt.mpr counted
  dsimp only
  rw [if_neg positive]

section

omit [TextTables] [ContentDigest]

variable {listing : ObservedListing} {observation : CatalogObservation}

theorem WellObserved.created {id : Nat} {observedAt : DateTime}
    (shown : Text.blank observation.contentFingerprint = false) :
    WellObserved (.created id observedAt observation) where
  counted := le_rfl
  fingerprint := ⟨_, rfl, shown⟩
  seenFirst := le_rfl
  seenLast := le_rfl

/-- The times of a row stay in order, whatever the clock says. -/
theorem times_inOrder {Time : Type*} [LinearOrder Time] {first changed last : Time}
    (before : first ≤ changed) (after : changed ≤ last) (seen : Time) (moved : Bool) :
    min first seen ≤ (if moved then max last seen else changed) ∧
      (if moved then max last seen else changed) ≤ max last seen := by
  cases moved with
  | true => exact ⟨(min_le_right _ _).trans (le_max_right _ _), le_rfl⟩
  | false => exact ⟨(min_le_left _ _).trans before, after.trans (le_max_left _ _)⟩

theorem WellObserved.applied (well : WellObserved listing) (seenAt : DateTime)
    (shown : Text.blank observation.contentFingerprint = false) :
    WellObserved (listing.applyCatalogObservation seenAt observation) where
  counted := by
    have counted := well.counted
    show 1 ≤ (listing.row.applyCatalogObservation observation).contentRevision
    rw [contentRevision_applied counted]
    split <;> omega
  fingerprint := ⟨_, rfl, shown⟩
  seenFirst := (times_inOrder well.seenFirst well.seenLast seenAt _).1
  seenLast := (times_inOrder well.seenFirst well.seenLast seenAt _).2

theorem evidence_jobFields {first second : ListingRow}
    (same : first.fields.evidence = second.fields.evidence) :
    first.jobFields = second.jobFields := by
  unfold CatalogFields.evidence at same
  injection same with title company location workload description
  unfold ListingRow.jobFields
  rw [title, company, location, workload, description]

/-- A row that is left as it is. -/
theorem RevisionCaptures.refl (well : WellObserved listing) : RevisionCaptures listing listing where
  evidence _ := rfl
  source _ := rfl
  monotone := le_rfl
  counted := ⟨fun grown => absurd grown (by omega), fun changed => absurd rfl changed⟩
  seenFirst := well.seenFirst
  seenLast := well.seenLast

/-- The revision is moved by the fingerprint. -/
theorem revision_moves (well : WellObserved listing) (seenAt : DateTime) :
    listing.row.contentRevision ≤
        (listing.applyCatalogObservation seenAt observation).row.contentRevision ∧
      ((listing.applyCatalogObservation seenAt observation).row.contentRevision =
          listing.row.contentRevision + 1 ↔
        (listing.applyCatalogObservation seenAt observation).row.contentFingerprint ≠
          listing.row.contentFingerprint) ∧
      ((listing.applyCatalogObservation seenAt observation).row.contentRevision =
          listing.row.contentRevision ↔
        listing.row.contentFingerprint = some observation.contentFingerprint) := by
  obtain ⟨stored, fingerprint, nonblank⟩ := well.fingerprint
  have revision : (listing.applyCatalogObservation seenAt observation).row.contentRevision =
      if listing.row.catalogContentChanged observation then listing.row.contentRevision + 1
      else listing.row.contentRevision := contentRevision_applied well.counted observation
  have written : (listing.applyCatalogObservation seenAt observation).row.contentFingerprint =
      some observation.contentFingerprint := rfl
  rw [catalogContentChanged_eq fingerprint nonblank observation] at revision
  rw [written, fingerprint]
  by_cases same : stored = observation.contentFingerprint
  · have unchanged : decide (stored ≠ observation.contentFingerprint) = false :=
      decide_eq_false (not_not.mpr same)
    rw [unchanged, if_neg Bool.false_ne_true] at revision
    rw [revision, same]
    exact ⟨le_rfl, ⟨fun grown => absurd grown (by omega), fun differs => absurd rfl differs⟩,
      fun _ => rfl, fun _ => rfl⟩
  · rw [decide_eq_true same, if_pos rfl] at revision
    rw [revision]
    refine ⟨by omega, ⟨fun _ kept => same (Option.some.inj kept).symm, fun _ => rfl⟩, ?_, ?_⟩
    · intro kept
      omega
    · intro kept
      exact absurd (Option.some.inj kept) same

/-- The revision stands for the content over a written observation exactly when the observation
has the stored fingerprint only together with the stored columns. -/
theorem revisionCaptures_applied (well : WellObserved listing) (seenAt : DateTime)
    (shown : Text.blank observation.contentFingerprint = false) :
    RevisionCaptures listing (listing.applyCatalogObservation seenAt observation) ↔
      (listing.row.contentFingerprint = some observation.contentFingerprint →
        observation.fields.evidence = listing.row.fields.evidence) := by
  obtain ⟨monotone, counted, kept⟩ := @revision_moves _ observation well seenAt
  have after := well.applied seenAt shown
  constructor
  · intro captures same
    exact captures.evidence (kept.mpr same)
  · intro distinguished
    refine ⟨fun same => distinguished (kept.mp same), fun same => ?_, monotone, counted,
      after.seenFirst, after.seenLast⟩
    have unchanged : (listing.applyCatalogObservation seenAt observation).row.jobFields =
        listing.row.jobFields := evidence_jobFields (distinguished (kept.mp same))
    rw [unchanged]

end

/-- A digest never is a blank text. -/
def DigestsShown : Prop :=
  ∀ title company location workload description : String,
    Text.blank (contentFingerprint title company location workload description) = false

theorem DigestsShown.observation (digests : DigestsShown)
    {observation : CatalogObservation} (own : observed.observation = .ok observation) :
    Text.blank observation.contentFingerprint = false := by
  obtain ⟨title, company, location, workload, description, made⟩ :=
    ListingObserved.observation_fingerprint own
  rw [made]
  exact digests title company location workload description

/-- What a later observation does. -/
theorem ObservedListing.observe_ok {before after : ObservedListing}
    (done : before.observe observed = .ok after) :
    ∃ observation admitted, observed.observation = .ok observation ∧
      before.admits observation observed = .ok admitted ∧
        after = if admitted then before.applyCatalogObservation observed.seenAt observation
          else before := by
  obtain ⟨observation, own, rest⟩ := bind_ok_iff.mp done
  obtain ⟨-, -, rest⟩ := bind_ok_iff.mp rest
  obtain ⟨admitted, admits, rest⟩ := bind_ok_iff.mp rest
  cases rest
  exact ⟨observation, admitted, own, admits, rfl⟩

theorem wellObserved_reachable (digests : DigestsShown) {listing : ObservedListing}
    (reached : listingHistory.Reachable listing) : WellObserved listing := by
  refine reached.invariant WellObserved ?_ ?_
  · rintro first ⟨id, observed, observation, own, rfl⟩
    exact .created (digests.observation own)
  · intro before observed after well _ done
    obtain ⟨observation, admitted, own, -, rfl⟩ := ObservedListing.observe_ok done
    cases admitted with
    | true => exact well.applied _ (digests.observation own)
    | false => exact well

/-- In every history of a listing the revision stands for the content over an observation exactly
when the observation is distinguished by its fingerprint; what the revision and the times do
besides holds in every history. -/
theorem contentRevision_captures (digests : DigestsShown) {before after : ObservedListing}
    {observed : ListingObserved} (reached : listingHistory.Reachable before)
    (done : listingHistory.step before observed = .ok after) :
    (RevisionCaptures before after ↔ Distinguished before observed) ∧
      before.row.contentRevision ≤ after.row.contentRevision ∧
      (after.row.contentRevision = before.row.contentRevision + 1 ↔
        after.row.contentFingerprint ≠ before.row.contentFingerprint) ∧
      after.firstSeenAt ≤ after.lastChangedAt ∧ after.lastChangedAt ≤ after.lastSeenAt := by
  have well := wellObserved_reachable digests reached
  obtain ⟨observation, admitted, own, admits, rfl⟩ := ObservedListing.observe_ok done
  have shown := digests.observation own
  cases admitted with
  | false =>
    have unchanged : RevisionCaptures before before := .refl well
    refine ⟨⟨fun _ other same written => ?_, fun _ => unchanged⟩, unchanged.monotone,
      unchanged.counted, unchanged.seenFirst, unchanged.seenLast⟩
    obtain rfl := Except.ok.inj (own.symm.trans same)
    rw [admits] at written
    cases written
  | true =>
    have moves := @revision_moves _ observation well observed.seenAt
    have after := well.applied observed.seenAt shown
    refine ⟨(revisionCaptures_applied well observed.seenAt shown).trans ?_, moves.1, moves.2.1,
      after.seenFirst, after.seenLast⟩
    constructor
    · intro distinguished other same _
      obtain rfl := Except.ok.inj (own.symm.trans same)
      exact distinguished
    · intro distinguished
      exact distinguished observation own admits

end

/-! ### Content beyond the cut -/

section

/-- A digest that shows its payload. -/
@[reducible] def ContentDigest.shown : ContentDigest where
  digest fields := "#" ++ "|".intercalate (fields.map Prod.snd)

attribute [local instance] TextTables.plain ContentDigest.shown

open Text

theorem blank_hash (text : String) : Text.blank ("#" ++ text) = false := by
  have letters : ("#" ++ text).toList = '#' :: text.toList := by
    rw [String.toList_append]
    rfl
  unfold Text.blank Text.strip
  rw [letters, beq_eq_false_iff_ne]
  intro empty
  have nothing : stripList ('#' :: text.toList) = [] := by
    rw [← String.toList_ofList (l := stripList ('#' :: text.toList)), empty]
    rfl
  unfold stripList at nothing
  rw [List.dropWhile_cons_of_neg (by decide)] at nothing
  have space := List.rdropWhile_eq_nil_iff.mp nothing '#' List.mem_cons_self
  exact absurd space (by decide)

theorem digestsShown : DigestsShown := fun _ _ _ _ _ => blank_hash _

/-- A company whose name is longer than what the fingerprint reads. -/
def longCompany (last : Char) : String := String.ofList (List.replicate 160 'a' ++ [last])

/-- The letters that the fingerprint takes of a company. -/
theorem normalizeFingerprintText_longCompany (last : Char) :
    normalizeFingerprintText (longCompany last) (some 160) =
      String.ofList (stripList (collapse isSpace ' ' (stripList (limitLineEndsFrom 0
        (collapse (fun letter => letter == ' ' || letter == '\t') ' '
          (cutPromptText (some 160) (stripList (limitLineEndsFrom 0
            ((replaceAll "\r" "\n" (replaceAll "\r\n" "\n" (List.replicate 160 'a' ++ [last]))).map
              fun letter => if isPromptControl letter then ' ' else letter))))))))) := by
  simp only [normalizeFingerprintText, normalizeCacheText, sanitizePromptText, strip, longCompany,
    String.toList_ofList]

set_option maxRecDepth 10000 in
theorem normalizeFingerprintText_cut :
    normalizeFingerprintText (longCompany 'b') (some 160) =
      normalizeFingerprintText (longCompany 'c') (some 160) := by
  rw [normalizeFingerprintText_longCompany, normalizeFingerprintText_longCompany]
  refine congrArg String.ofList ?_
  decide +kernel

theorem longCompany_injective : longCompany 'b' ≠ longCompany 'c' := by
  intro same
  have letters : List.replicate 160 'a' ++ ['b'] = List.replicate 160 'a' ++ ['c'] :=
    String.ofList_injective same
  have last : ['b'] = ['c'] := List.append_cancel_left letters
  cases last

theorem orElse_longCompany (last : Char) :
    Text.orElse (longCompany last) "Unknown" = longCompany last := by
  unfold Text.orElse
  rw [if_neg]
  intro empty
  have letters := congrArg String.toList empty
  unfold longCompany at letters
  rw [String.toList_ofList] at letters
  cases List.append_eq_nil_iff.mp letters with
  | intro _ impossible => cases impossible

/-- A listing of a company. -/
def companyListing (company : String) : JobListing where
  id := "4711"
  source := "jobroom"
  title := "Nurse"
  descriptions := []
  externalUrl := some "https://jobs.example/4711"
  formUrl := none
  company := some ⟨some company⟩
  location := some ⟨"Bern"⟩
  employment := some ⟨80, 100⟩

/-- What the catalog observes of it. -/
def companyObservation (company : String) : CatalogObservation where
  platform := Text.strip (Text.orElse "jobroom" "unknown")
  platformJobId := Text.strip "4711"
  fields := {
    title := cleanHtmlTags "Nurse"
    company := Text.orElse company "Unknown"
    description := none
    location := noneWhenEmpty "Bern"
    workload := noneWhenEmpty (extractListingWorkloadString (companyListing company))
    externalUrl := "https://jobs.example/4711"
    applicationUrl := none }
  contentFingerprint := contentFingerprint (cleanHtmlTags "Nurse") (Text.orElse company "Unknown")
    "Bern" (extractListingWorkloadString (companyListing company)) ""

theorem listingObservation_company (company : String) :
    listingObservation (companyListing company) = .ok (companyObservation company) := by
  have named : Text.strip "4711" ≠ "" := by decide
  have url : normalizeJobUrl (some "https://jobs.example/4711") true =
      .ok (some "https://jobs.example/4711") := rfl
  have form : normalizeJobUrl none false = .ok none := rfl
  refine bind_ok_iff.mpr ⟨(), refuseWhen_ok_iff.mpr named, ?_⟩
  refine bind_ok_iff.mpr ⟨_, url, bind_ok_iff.mpr ⟨_, form, ?_⟩⟩
  rfl

/-- Companies that the fingerprint cuts to one text have one fingerprint. -/
theorem contentFingerprint_company {first second : Char}
    (same : normalizeFingerprintText (longCompany first) (some 160) =
      normalizeFingerprintText (longCompany second) (some 160)) :
    (companyObservation (longCompany first)).contentFingerprint =
      (companyObservation (longCompany second)).contentFingerprint := by
  have cut (last : Char) : (companyObservation (longCompany last)).contentFingerprint =
      contentFingerprint (cleanHtmlTags "Nurse") (Text.orElse (longCompany last) "Unknown") "Bern"
        (extractListingWorkloadString (companyListing "")) "" := rfl
  rw [cut, cut, orElse_longCompany, orElse_longCompany]
  unfold contentFingerprint
  rw [same]

/-- The moment of both observations. -/
theorem observedMoment_valid : ValidTime 2026 1 1 0 0 0 0 := by decide

def observedMoment : DateTime := ⟨2026, 1, 1, 0, 0, 0, 0, observedMoment_valid⟩

/-- The row of the company, as the first observation makes it. -/
def companyRow : ObservedListing :=
  .created 1 observedMoment (companyObservation (longCompany 'b'))

theorem evidence_companyObservation (last : Char) :
    (companyObservation (longCompany last)).fields.evidence.company = longCompany last :=
  orElse_longCompany last

theorem evidence_companyRow : companyRow.row.fields.evidence.company = longCompany 'b' := by
  unfold companyRow
  exact evidence_companyObservation 'b'

theorem reachable_companyRow : listingHistory.Reachable companyRow :=
  .initial ⟨1, .listing observedMoment (companyListing (longCompany 'b')), _,
    listingObservation_company _, rfl⟩

theorem observe_company (company : String) :
    listingHistory.step companyRow (.listing observedMoment (companyListing company)) =
      .ok (companyRow.applyCatalogObservation observedMoment (companyObservation company)) := by
  refine bind_ok_iff.mpr ⟨companyObservation company, listingObservation_company company, ?_⟩
  exact bind_ok_iff.mpr ⟨(), rfl, rfl⟩

/-- The same company is observed twice. -/
theorem contentRevision_captures_same : ∃ after : ObservedListing,
    listingHistory.step companyRow
        (.listing observedMoment (companyListing (longCompany 'b'))) = .ok after ∧
      RevisionCaptures companyRow after := by
  refine ⟨_, observe_company _, ?_⟩
  refine (contentRevision_captures digestsShown reachable_companyRow (observe_company _)).1.mpr ?_
  intro observation own _ _
  obtain rfl := Except.ok.inj ((listingObservation_company _).symm.trans own)
  rfl

/-- Two companies that differ beyond the cut leave the revision as it is. -/
theorem contentRevision_misses :
    ¬∀ (before after : ObservedListing) (observed : ListingObserved),
      listingHistory.Reachable before → listingHistory.step before observed = .ok after →
        RevisionCaptures before after := by
  intro claimed
  have captures := claimed companyRow _ _ reachable_companyRow (observe_company (longCompany 'c'))
  have distinguished := (contentRevision_captures digestsShown reachable_companyRow
    (observe_company (longCompany 'c'))).1.mp captures
  have same := contentFingerprint_company normalizeFingerprintText_cut
  have evidence := distinguished _ (listingObservation_company _) rfl (congrArg some same)
  have company := congrArg EvidenceColumns.company evidence
  rw [evidence_companyRow, evidence_companyObservation] at company
  exact longCompany_injective company.symm

end

end CareerOS
