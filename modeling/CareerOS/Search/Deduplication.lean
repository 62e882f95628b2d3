/-
This file is the deduplication of the listings a run finds. A listing is known by
four marks: its identity at the provider, its address, the words of its title and
company, and its text. A mark that the run has seen before makes it a duplicate
of the run, a mark of the saved history of the profile a duplicate of the
history; a listing whose content has changed goes through all the same.
-/

import Mathlib

namespace CareerOS

/-- The marks of a listing; an empty text is no mark. -/
structure DedupKeys where
  key : Option String
  url : String
  fuzzy : String
  descFp : Option String
  deriving DecidableEq

/-- `_new_run_dedup_state`. -/
structure RunDedupState where
  seenIdentityKeys : List String
  seenUrlTokens : List String
  seenFuzzyKeysAny : List String
  seenFuzzyKeysStrong : List String
  seenDescFingerprints : List String

def RunDedupState.new : RunDedupState := ⟨[], [], [], [], []⟩

/-- The marks of `_load_profile_dedup_history`. -/
structure ProfileHistory where
  existingKeys : List String
  existingUrls : List String
  existingFuzzyKeys : List String
  existingFuzzyKeysStrong : List String

inductive DuplicateReason
  | runtime
  | history
  deriving DecidableEq

/-- Does the listing have a mark that identifies it strongly? -/
def DedupKeys.hasAnchor (keys : DedupKeys) : Bool := keys.key.isSome || keys.url != ""

/-- The last test of `_duplicate_reason`, for a listing with an anchor: the same words together
with the same text. -/
def strongFuzzyReason (keys : DedupKeys) (run : RunDedupState) (history : ProfileHistory) :
    Option DuplicateReason :=
  if keys.hasAnchor &&
      (run.seenFuzzyKeysStrong.contains keys.fuzzy ||
        history.existingFuzzyKeysStrong.contains keys.fuzzy) &&
      keys.descFp.any run.seenDescFingerprints.contains then
    if history.existingFuzzyKeysStrong.contains keys.fuzzy then some .history else some .runtime
  else none

/-- The fuzzy tests of `_duplicate_reason`. -/
def fuzzyReason (keys : DedupKeys) (run : RunDedupState) (history : ProfileHistory) :
    Option DuplicateReason :=
  if keys.fuzzy = "" then none
  else if !keys.hasAnchor && history.existingFuzzyKeys.contains keys.fuzzy then some .history
  else if !keys.hasAnchor && run.seenFuzzyKeysAny.contains keys.fuzzy then some .runtime
  else strongFuzzyReason keys run history

/-- `_duplicate_reason`. -/
def duplicateReason (keys : DedupKeys) (run : RunDedupState) (history : ProfileHistory) :
    Option DuplicateReason :=
  if keys.key.any run.seenIdentityKeys.contains then some .runtime
  else if keys.key.any history.existingKeys.contains then some .history
  else if keys.url != "" && run.seenUrlTokens.contains keys.url then some .runtime
  else if keys.url != "" && history.existingUrls.contains keys.url then some .history
  else if keys.descFp.any run.seenDescFingerprints.contains then some .runtime
  else fuzzyReason keys run history

/-- `set.add(text)` for a text that may be empty. -/
def addMark (text : String) (marks : List String) : List String :=
  if text = "" then marks else text :: marks

/-- The marks of the run after `_record_dedup_markers`. -/
def RunDedupState.record (run : RunDedupState) (keys : DedupKeys) : RunDedupState where
  seenIdentityKeys := keys.key.toList ++ run.seenIdentityKeys
  seenUrlTokens := addMark keys.url run.seenUrlTokens
  seenFuzzyKeysAny := addMark keys.fuzzy run.seenFuzzyKeysAny
  seenFuzzyKeysStrong :=
    if keys.hasAnchor || keys.descFp.isSome then addMark keys.fuzzy run.seenFuzzyKeysStrong
    else run.seenFuzzyKeysStrong
  seenDescFingerprints := keys.descFp.toList ++ run.seenDescFingerprints

/-- The marks of the history after `_record_dedup_markers`. -/
def ProfileHistory.record (history : ProfileHistory) (keys : DedupKeys) : ProfileHistory where
  existingKeys := keys.key.toList ++ history.existingKeys
  existingUrls := addMark keys.url history.existingUrls
  existingFuzzyKeys := addMark keys.fuzzy history.existingFuzzyKeys
  existingFuzzyKeysStrong :=
    if keys.hasAnchor || keys.descFp.isSome then
      addMark keys.fuzzy history.existingFuzzyKeysStrong
    else history.existingFuzzyKeysStrong

/-- Is a persisted observation dropped, and as what kind of duplicate? -/
def dropReason (keys : DedupKeys) (contentChanged : Bool) (run : RunDedupState)
    (history : ProfileHistory) : Option DuplicateReason :=
  if contentChanged then none else duplicateReason keys run history

end CareerOS
