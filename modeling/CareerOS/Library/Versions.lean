/-
This file is about records that carry the whole of one version of a thing: the
log holds every version of every thing, in no particular order, and the newest
version of each is what the thing is now. A log is sound when no version is
recorded twice with different contents, versions count from one without a gap,
and each follows from the one before it.

The log is a set, so what is proved here holds for every order the records can
be read in. A sound log grows in two ways: by the first version of a new thing,
and by the version after the newest one of a known thing.
-/

import Mathlib

namespace CareerOS

/-- Records that are versions of things. -/
structure Versioning (Record Key : Type*) where
  key : Record → Key
  version : Record → Nat
  /-- May the second record be the version right after the first? -/
  follows : Record → Record → Prop

namespace Versioning

variable {Record Key : Type*} (versioning : Versioning Record Key)

/-- Versions count from one without a gap, one record each, each following from the last. -/
structure Sound (log : Set Record) : Prop where
  positive : ∀ record ∈ log, 1 ≤ versioning.version record
  functional : ∀ first ∈ log, ∀ second ∈ log, versioning.key first = versioning.key second →
    versioning.version first = versioning.version second → first = second
  gapless : ∀ record ∈ log, 1 < versioning.version record → ∃ previous ∈ log,
    versioning.key previous = versioning.key record ∧
      versioning.version previous + 1 = versioning.version record ∧
        versioning.follows previous record

/-- The newest version of its thing. -/
structure Latest (log : Set Record) (current : Record) : Prop where
  member : current ∈ log
  newest : ∀ record ∈ log, versioning.key record = versioning.key current →
    versioning.version record ≤ versioning.version current

variable {versioning} {log : Set Record}

theorem sound_empty : versioning.Sound ∅ where
  positive := fun _ impossible => impossible.elim
  functional := fun _ impossible => impossible.elim
  gapless := fun _ impossible => impossible.elim

theorem Latest.unique (sound : versioning.Sound log) {first second : Record}
    (firstLatest : versioning.Latest log first) (secondLatest : versioning.Latest log second)
    (same : versioning.key first = versioning.key second) : first = second := by
  have le := secondLatest.newest first firstLatest.member same
  have ge := firstLatest.newest second secondLatest.member same.symm
  exact sound.functional first firstLatest.member second secondLatest.member same
    (Nat.le_antisymm le ge)

variable {record : Record}

/-- A recorded thing has a newest version. -/
theorem exists_latest (finite : log.Finite) (member : record ∈ log) :
    ∃ current, versioning.Latest log current ∧ versioning.key current = versioning.key record := by
  let versions : Set Record := {other ∈ log | versioning.key other = versioning.key record}
  have versionsFinite : versions.Finite := finite.subset fun _ inside => inside.1
  obtain ⟨current, inside, highest⟩ :=
    Set.exists_max_image versions versioning.version versionsFinite ⟨record, member, rfl⟩
  exact ⟨current, ⟨inside.1, fun other otherMember same =>
    highest other ⟨otherMember, same.trans inside.2⟩⟩, inside.2⟩

/-- Every version up to a recorded one is recorded. -/
theorem Sound.exists_version (sound : versioning.Sound log)
    (member : record ∈ log) {version : Nat} (positive : 1 ≤ version)
    (below : version ≤ versioning.version record) :
    ∃ earlier ∈ log, versioning.key earlier = versioning.key record ∧
      versioning.version earlier = version := by
  induction gap : versioning.version record - version generalizing record with
  | zero => exact ⟨record, member, rfl, by omega⟩
  | succ gap inductionHypothesis =>
    obtain ⟨previous, previousMember, same, next, -⟩ :=
      sound.gapless record member (by omega)
    obtain ⟨earlier, earlierMember, earlierSame, found⟩ :=
      inductionHypothesis previousMember (by omega) (by omega)
    exact ⟨earlier, earlierMember, earlierSame.trans same, found⟩

/-! ### A new thing -/

theorem Sound.insert_first (sound : versioning.Sound log)
    (fresh : ∀ other ∈ log, versioning.key other ≠ versioning.key record)
    (first : versioning.version record = 1) : versioning.Sound (insert record log) where
  positive := by
    rintro other (rfl | member)
    · exact first.ge
    · exact sound.positive other member
  functional := by
    rintro one (rfl | oneMember) two (rfl | twoMember) sameKey sameVersion
    · rfl
    · exact absurd sameKey.symm (fresh two twoMember)
    · exact absurd sameKey (fresh one oneMember)
    · exact sound.functional one oneMember two twoMember sameKey sameVersion
  gapless := by
    rintro other (rfl | member) later
    · omega
    · obtain ⟨previous, previousMember, linked⟩ := sound.gapless other member later
      exact ⟨previous, Or.inr previousMember, linked⟩

theorem latest_insert_first
    (fresh : ∀ other ∈ log, versioning.key other ≠ versioning.key record) (current : Record) :
    versioning.Latest (insert record log) current ↔
      current = record ∨ versioning.Latest log current := by
  constructor
  · rintro ⟨rfl | member, newest⟩
    · exact Or.inl rfl
    · exact Or.inr ⟨member, fun other otherMember => newest other (Or.inr otherMember)⟩
  · rintro (rfl | ⟨member, newest⟩)
    · refine ⟨Or.inl rfl, ?_⟩
      rintro other (rfl | otherMember) same
      · exact Nat.le_refl _
      · exact absurd same (fresh other otherMember)
    · refine ⟨Or.inr member, ?_⟩
      rintro other (rfl | otherMember) same
      · exact absurd same.symm (fresh current member)
      · exact newest other otherMember same

/-! ### The next version of a known thing -/

theorem Sound.insert_next (sound : versioning.Sound log) {current record : Record}
    (latest : versioning.Latest log current) (same : versioning.key current = versioning.key record)
    (next : versioning.version current + 1 = versioning.version record)
    (linked : versioning.follows current record) : versioning.Sound (insert record log) where
  positive := by
    rintro other (rfl | member)
    · omega
    · exact sound.positive other member
  functional := by
    rintro one (rfl | oneMember) two (rfl | twoMember) sameKey sameVersion
    · rfl
    · have := latest.newest two twoMember (sameKey.symm.trans same.symm)
      omega
    · have := latest.newest one oneMember (sameKey.trans same.symm)
      omega
    · exact sound.functional one oneMember two twoMember sameKey sameVersion
  gapless := by
    rintro other (rfl | member) later
    · exact ⟨current, Or.inr latest.member, same, next, linked⟩
    · obtain ⟨previous, previousMember, linked⟩ := sound.gapless other member later
      exact ⟨previous, Or.inr previousMember, linked⟩

theorem latest_insert_next (sound : versioning.Sound log) {current record : Record}
    (latest : versioning.Latest log current) (same : versioning.key current = versioning.key record)
    (next : versioning.version current + 1 = versioning.version record) (other : Record) :
    versioning.Latest (insert record log) other ↔
      other = record ∨ (versioning.Latest log other ∧ other ≠ current) := by
  constructor
  · rintro ⟨rfl | member, newest⟩
    · exact Or.inl rfl
    · refine Or.inr ⟨⟨member, fun third thirdMember => newest third (Or.inr thirdMember)⟩, ?_⟩
      rintro rfl
      have := newest record (Or.inl rfl) same.symm
      omega
  · rintro (rfl | ⟨otherLatest, different⟩)
    · refine ⟨Or.inl rfl, ?_⟩
      rintro third (rfl | thirdMember) sameKey
      · exact Nat.le_refl _
      · have := latest.newest third thirdMember (sameKey.trans same.symm)
        omega
    · refine ⟨Or.inr otherLatest.member, ?_⟩
      rintro third (rfl | thirdMember) sameKey
      · exact absurd (otherLatest.unique sound latest (sameKey.symm.trans same.symm)) different
      · exact otherLatest.newest third thirdMember sameKey

end Versioning

end CareerOS
