/-
This file proves when the jobs of the scheduler agree with the stored profiles. A request
keeps the agreement if and only if it leaves the schedules alone, or is a toggle that
switches on an interval the scheduler can count with, or a deletion that the database
takes. By induction a run of such requests, starts and ends of the process agrees in
every state in which the process runs.
-/

import CareerOS.Services.Scheduler

namespace CareerOS

namespace Scheduler

/-- One job for each profile whose schedule is on, with the interval that is stored. -/
structure Agrees (profiles : List SearchProfile) (jobs : Jobs) : Prop where
  wanted : ∀ id, jobs id ≠ none → ∃ profile ∈ profiles, profile.id = id ∧
    profile.scheduleEnabled = some true
  scheduled : ∀ profile ∈ profiles, profile.scheduleEnabled = some true →
    jobs profile.id ≠ none ∧ jobs profile.id = profile.scheduleIntervalHours

section

variable [IntervalTriggers]

/-- The scheduler can make a job of the interval. -/
def Schedulable (now : Int) (profileId : Nat) (hours : Option Int) : Prop :=
  1 ≤ profileId ∧ ∃ count, hours = some count ∧ 1 ≤ count ∧
    IntervalTriggers.accepts now count = true

/-- The columns of the row, after the update, say the same of its schedule. -/
def SameSchedule (enabled : Given Bool) (hours : Given Int) (profile : SearchProfile) : Prop :=
  (enabled.getD profile.scheduleEnabled = some true ↔ profile.scheduleEnabled = some true) ∧
    (profile.scheduleEnabled = some true →
      hours.getD profile.scheduleIntervalHours = profile.scheduleIntervalHours)

/-- The operations that keep the agreement. -/
def Meets (state : State) : Action → Prop
  | .start now => ∀ profile ∈ scheduledProfiles state.profiles,
    Schedulable now profile.id profile.scheduleIntervalHours
  | .shutdown => True
  | .createProfile _ enabled _ => enabled ≠ some true
  | .updateProfile _ profileId enabled hours => ∀ profile ∈ state.profiles.rows,
    profile.id = profileId → SameSchedule enabled hours profile
  | .toggleSchedule now _ profileId enabled intervalHours => enabled = true →
    ∀ profile ∈ state.profiles.rows, profile.id = profileId →
      Schedulable now profileId (toggledInterval profile intervalHours)
  | .startSearch _ id enabled _ => id = none ∨ id = some 0 → enabled ≠ some (some true)
  | .deleteProfile _ profileId commits => commits = true ∨ ∀ profile ∈ state.profiles.rows,
    profile.id = profileId → profile.scheduleEnabled ≠ some true
  | .runScheduledSearch _ => True

instance (now : Int) (profileId : Nat) :
    (hours : Option Int) → Decidable (Schedulable now profileId hours)
  | none => isFalse fun able => nomatch able.2.choose_spec.1
  | some count =>
    decidable_of_iff (1 ≤ profileId ∧ 1 ≤ count ∧ IntervalTriggers.accepts now count = true)
      ⟨fun able => ⟨able.1, count, rfl, able.2⟩, fun ⟨positive, _, same, able⟩ =>
        ⟨positive, Option.some.inj same ▸ able⟩⟩

omit [IntervalTriggers] in
instance (enabled : Given Bool) (hours : Given Int) (profile : SearchProfile) :
    Decidable (SameSchedule enabled hours profile) := by
  unfold SameSchedule
  infer_instance

instance (state : State) : (action : Action) → Decidable (Meets state action)
  | .start now => inferInstanceAs (Decidable (∀ profile ∈ scheduledProfiles state.profiles,
    Schedulable now profile.id profile.scheduleIntervalHours))
  | .shutdown => isTrue trivial
  | .createProfile _ enabled _ => inferInstanceAs (Decidable (enabled ≠ some true))
  | .updateProfile _ profileId enabled hours =>
    inferInstanceAs (Decidable (∀ profile ∈ state.profiles.rows, profile.id = profileId →
      SameSchedule enabled hours profile))
  | .toggleSchedule now _ profileId enabled intervalHours =>
    inferInstanceAs (Decidable (enabled = true → ∀ profile ∈ state.profiles.rows,
      profile.id = profileId →
        Schedulable now profileId (toggledInterval profile intervalHours)))
  | .startSearch _ id enabled _ =>
    inferInstanceAs (Decidable (id = none ∨ id = some 0 → enabled ≠ some (some true)))
  | .deleteProfile _ profileId commits =>
    inferInstanceAs (Decidable (commits = true ∨ ∀ profile ∈ state.profiles.rows,
      profile.id = profileId → profile.scheduleEnabled ≠ some true))
  | .runScheduledSearch _ => isTrue trivial

/-! ### The scheduler -/

omit [IntervalTriggers] in
theorem normalizedIntervalHours_of_pos {hours : Int} (positive : 1 ≤ hours) :
    normalizedIntervalHours (some hours) = hours := by
  unfold normalizedIntervalHours
  exact if_neg (by omega)

/-- Adding a schedule leaves the other jobs. -/
theorem addSchedule_other (now : Int) (jobs : Jobs) (hours : Int) {profileId other : Nat}
    (different : other ≠ profileId) : (addSchedule now jobs profileId hours).1 other = jobs other := by
  unfold addSchedule
  split
  · rfl
  · dsimp only
    split
    · dsimp only
      rw [Function.update_of_ne different, Function.update_of_ne different]
    · dsimp only
      rw [Function.update_of_ne different]

/-- What `add_schedule` leaves of the job, where it is the interval that was asked for. -/
theorem addSchedule_self_iff (now : Int) (jobs : Jobs) (profileId : Nat) (hours count : Int)
    (free : profileId < 1 → jobs profileId = none) :
    (addSchedule now jobs profileId hours).1 profileId = some count ↔
      1 ≤ profileId ∧ count = normalizedIntervalHours (some hours) ∧
        IntervalTriggers.accepts now count = true := by
  unfold addSchedule
  split
  · rename_i zero
    dsimp only
    rw [free zero]
    exact ⟨nofun, fun given => absurd given.1 (by omega)⟩
  · rename_i positive
    dsimp only
    split
    · rename_i accepted
      dsimp only
      rw [Function.update_self]
      constructor
      · intro same
        rw [← Option.some.inj same]
        exact ⟨by omega, rfl, accepted⟩
      · rintro ⟨-, rfl, -⟩
        rfl
    · rename_i refused
      dsimp only
      rw [Function.update_self]
      refine ⟨nofun, ?_⟩
      rintro ⟨-, rfl, accepted⟩
      exact absurd accepted refused

theorem addSchedule_of_schedulable {now : Int} {profileId : Nat} {count : Int} (jobs : Jobs)
    (able : Schedulable now profileId (some count)) :
    (addSchedule now jobs profileId count).1 profileId = some count ∧
      (addSchedule now jobs profileId count).2 = true := by
  obtain ⟨positive, _, same, large, accepted⟩ := able
  obtain rfl := Option.some.inj same
  unfold addSchedule
  rw [if_neg (by omega), normalizedIntervalHours_of_pos large]
  dsimp only
  rw [if_pos accepted]
  exact ⟨Function.update_self _ _ _, rfl⟩

variable {profiles : List SearchProfile}

/-- The loop makes jobs of the profiles it is given only. -/
theorem loadSchedules_other (now : Int) {id : Nat}
    (outside : ∀ profile ∈ profiles, profile.id ≠ id) (jobs : Jobs) :
    loadSchedules now profiles jobs id = jobs id := by
  induction profiles generalizing jobs with
  | nil => rfl
  | cons profile rest inductionHypothesis =>
    obtain ⟨here, later⟩ := List.forall_mem_cons.mp outside
    unfold loadSchedules
    dsimp only
    split
    · rw [inductionHypothesis later, addSchedule_other _ _ _ here.symm]
    · rw [addSchedule_other _ _ _ here.symm]

/-- The jobs after a start are those of the profiles exactly if all of them can be made. -/
theorem loadSchedules_iff (now : Int)
    (distinct : (profiles.map SearchProfile.id).Nodup) (jobs : Jobs)
    (free : ∀ profile ∈ profiles, jobs profile.id = none) :
    (∀ profile ∈ profiles, loadSchedules now profiles jobs profile.id ≠ none ∧
      loadSchedules now profiles jobs profile.id = profile.scheduleIntervalHours) ↔
      ∀ profile ∈ profiles, Schedulable now profile.id profile.scheduleIntervalHours := by
  induction profiles generalizing jobs with
  | nil => exact ⟨fun _ _ => nofun, fun _ _ => nofun⟩
  | cons profile rest inductionHypothesis =>
    obtain ⟨fresh, below⟩ := List.nodup_cons.mp distinct
    obtain ⟨here, later⟩ := List.forall_mem_cons.mp free
    have others : ∀ other ∈ rest, other.id ≠ profile.id :=
      fun other member same => fresh (same ▸ List.mem_map_of_mem member)
    have kept : ∀ hours, ∀ other ∈ rest,
        (addSchedule now jobs profile.id hours).1 other.id = none := fun hours other member => by
      rw [addSchedule_other _ _ _ (others other member), later other member]
    have same : ∀ jobs, loadSchedules now rest jobs profile.id = jobs profile.id :=
      fun jobs => loadSchedules_other now (fun other member => others other member) jobs
    rw [List.forall_mem_cons, List.forall_mem_cons]
    by_cases able : Schedulable now profile.id profile.scheduleIntervalHours
    · obtain ⟨positive, count, stored, large, accepted⟩ := able
      have able : Schedulable now profile.id (some count) :=
        ⟨positive, count, rfl, large, accepted⟩
      obtain ⟨made, added⟩ := addSchedule_of_schedulable jobs able
      unfold loadSchedules
      dsimp only
      rw [stored, normalizedIntervalHours_of_pos large, if_pos added, same, made,
        inductionHypothesis below _ (kept count)]
      exact ⟨fun given => ⟨able, given.2⟩, fun given => ⟨⟨nofun, rfl⟩, given.2⟩⟩
    · refine ⟨fun given => absurd ?_ able, fun given => absurd given.1 able⟩
      obtain ⟨⟨made, stored⟩, -⟩ := given
      cases found : profile.scheduleIntervalHours with
      | none =>
        rw [found] at stored
        exact absurd stored made
      | some count =>
        rw [found] at stored
        unfold loadSchedules at stored
        dsimp only at stored
        rw [found] at stored
        have result : (addSchedule now jobs profile.id
            (normalizedIntervalHours (some count))).1 profile.id = some count := by
          split at stored
          · rwa [same] at stored
          · exact stored
        obtain ⟨positive, normal, accepted⟩ :=
          (addSchedule_self_iff now jobs profile.id _ count fun _ => here).mp result
        refine ⟨positive, count, rfl, ?_, accepted⟩
        unfold normalizedIntervalHours at normal
        dsimp only at normal
        split at normal
        · omega
        · omega

/-! ### What a change of the rows does to the agreement -/

variable {profile : SearchProfile}

section

omit [IntervalTriggers]

/-- A profile whose schedule is off has no job. -/
theorem Agrees.job_eq_none {jobs : Jobs}
    (agrees : Agrees profiles jobs) (distinct : (profiles.map SearchProfile.id).Nodup)
    (member : profile ∈ profiles)
    (off : profile.scheduleEnabled ≠ some true) : jobs profile.id = none := by
  by_contra scheduled
  obtain ⟨other, inside, same, on⟩ := agrees.wanted profile.id scheduled
  rw [List.inj_on_of_nodup_map distinct inside member same] at on
  exact off on

/-- A new row agrees if its schedule is off. -/
theorem agrees_insert_iff {jobs : Jobs} (agrees : Agrees profiles jobs) {added : SearchProfile}
    (fresh : added.id ∉ profiles.map SearchProfile.id) :
    Agrees (profiles ++ [added]) jobs ↔ added.scheduleEnabled ≠ some true := by
  constructor
  · intro after on
    have made := (after.scheduled added (List.mem_append_right _ (List.mem_singleton.mpr rfl)) on).1
    obtain ⟨other, inside, same, -⟩ := agrees.wanted added.id made
    exact fresh (same ▸ List.mem_map_of_mem inside)
  · intro off
    refine ⟨fun id made => ?_, fun profile member on => ?_⟩
    · obtain ⟨other, inside, same, on⟩ := agrees.wanted id made
      exact ⟨other, List.mem_append_left _ inside, same, on⟩
    · rcases List.mem_append.mp member with before | last
      · exact agrees.scheduled profile before on
      · rw [List.mem_singleton.mp last] at on
        exact absurd on off

/-- A row that is written agrees if its own job does. -/
theorem agrees_write_iff {jobs after : Jobs}
    (agrees : Agrees profiles jobs) (distinct : (profiles.map SearchProfile.id).Nodup)
    (member : profile ∈ profiles)
    (others : ∀ id, id ≠ profile.id → after id = jobs id) (enabled : Option Bool)
    (hours : Option Int) :
    Agrees (profiles.map (SearchProfile.setSchedule profile.id enabled hours)) after ↔
      (enabled = some true → after profile.id ≠ none ∧ after profile.id = hours) ∧
        (enabled ≠ some true → after profile.id = none) := by
  have written : SearchProfile.setSchedule profile.id enabled hours profile =
      { profile with scheduleEnabled := enabled, scheduleIntervalHours := hours } := if_pos rfl
  have changed : { profile with scheduleEnabled := enabled, scheduleIntervalHours := hours } ∈
      profiles.map (SearchProfile.setSchedule profile.id enabled hours) :=
    List.mem_map.mpr ⟨profile, member, written⟩
  have untouched : ∀ other ∈ profiles, other.id ≠ profile.id →
      SearchProfile.setSchedule profile.id enabled hours other = other :=
    fun other _ different => if_neg different
  constructor
  · intro result
    refine ⟨fun on => result.scheduled _ changed on, fun off => ?_⟩
    by_contra made
    obtain ⟨row, inside, same, on⟩ := result.wanted profile.id made
    obtain ⟨other, source, rfl⟩ := List.mem_map.mp inside
    rw [id_setSchedule] at same
    rw [List.inj_on_of_nodup_map distinct source member same, written] at on
    exact off on
  · rintro ⟨whenOn, whenOff⟩
    refine ⟨fun id made => ?_, fun row inside on => ?_⟩
    · by_cases same : id = profile.id
      · subst same
        by_cases on : enabled = some true
        · exact ⟨_, changed, rfl, on⟩
        · exact absurd (whenOff on) made
      · rw [others id same] at made
        obtain ⟨other, inside, keyed, on⟩ := agrees.wanted id made
        have kept := untouched other inside (keyed.symm ▸ same)
        exact ⟨other, List.mem_map.mpr ⟨other, inside, kept⟩, keyed, on⟩
    · obtain ⟨other, source, rfl⟩ := List.mem_map.mp inside
      by_cases same : other.id = profile.id
      · rw [List.inj_on_of_nodup_map distinct source member same, written] at on ⊢
        exact whenOn on
      · rw [untouched other source same] at on ⊢
        rw [others other.id same]
        exact agrees.scheduled other source on

end

/-! ### One operation -/

/-- What holds while a process runs. -/
structure Holds (state : State) : Prop where
  agrees : Agrees state.profiles.rows state.jobs
  /-- No job carries the identifier that the scheduler refuses. -/
  zero : state.jobs 0 = none

variable {before after : State} {userId profileId : Nat} {state : State}

section

omit [IntervalTriggers]

theorem ownedProfile_ok (owned : ownedProfile state userId profileId = .ok profile) :
    profile ∈ state.profiles.rows ∧ profile.id = profileId := by
  unfold ownedProfile at owned
  split at owned
  · cases owned
  · rename_i row found
    split at owned
    · rw [← Except.ok.inj owned]
      exact Table.find_eq_some_iff.mp found
    · cases owned

/-- The only row of an identifier. -/
theorem forall_row_iff (member : profile ∈ state.profiles.rows) (property : SearchProfile → Prop) :
    (∀ row ∈ state.profiles.rows, row.id = profile.id → property row) ↔ property profile := by
  constructor
  · exact fun all => all profile member rfl
  · intro here row inside same
    rwa [List.inj_on_of_nodup_map state.profiles.distinct inside member same]

theorem createProfile_iff (holds : Holds before) {userId : Nat}
    {enabled : Option Bool} {hours : Option Int}
    (committed : createProfile before userId enabled hours = .ok after) :
    after.running = before.running ∧ (Holds after ↔ enabled ≠ some true) := by
  obtain ⟨_, -, committed⟩ := bind_ok_iff.mp committed
  obtain ⟨_, -, committed⟩ := bind_ok_iff.mp committed
  obtain rfl := pure_ok_iff.mp committed
  have inserted : Agrees (before.profiles.rows ++
      [newProfile before.profiles.nextKey userId enabled hours]) before.jobs ↔ _ :=
    agrees_insert_iff holds.agrees before.profiles.nextKey_fresh
  have on : (newProfile before.profiles.nextKey userId enabled hours).scheduleEnabled ≠ some true ↔
      enabled ≠ some true := by
    unfold newProfile
    cases enabled with
    | none => exact ⟨fun _ => nofun, fun _ => nofun⟩
    | some value => exact Iff.rfl
  exact ⟨rfl, fun result => on.mp (inserted.mp result.agrees),
    fun off => ⟨inserted.mpr (on.mpr off), holds.zero⟩⟩

theorem updateProfile_iff (holds : Holds before) {enabled : Given Bool} {hours : Given Int}
    (committed : updateProfile before userId profileId enabled hours = .ok after) :
    after.running = before.running ∧ (Holds after ↔ ∀ profile ∈ before.profiles.rows,
      profile.id = profileId → SameSchedule enabled hours profile) := by
  obtain ⟨_, -, committed⟩ := bind_ok_iff.mp committed
  obtain ⟨profile, owned, committed⟩ := bind_ok_iff.mp committed
  obtain ⟨_, -, committed⟩ := bind_ok_iff.mp committed
  obtain rfl := pure_ok_iff.mp committed
  obtain ⟨member, rfl⟩ := ownedProfile_ok owned
  have distinct := before.profiles.distinct
  rw [forall_row_iff member]
  have written := agrees_write_iff holds.agrees distinct member (fun _ _ => rfl)
    (enabled.getD profile.scheduleEnabled) (hours.getD profile.scheduleIntervalHours)
  have job : Agrees (before.profiles.rows.map (SearchProfile.setSchedule profile.id
      (enabled.getD profile.scheduleEnabled) (hours.getD profile.scheduleIntervalHours)))
      before.jobs ↔ SameSchedule enabled hours profile := by
    rw [written]
    by_cases was : profile.scheduleEnabled = some true
    · obtain ⟨made, stored⟩ := holds.agrees.scheduled profile member was
      constructor
      · rintro ⟨whenOn, whenOff⟩
        have on : enabled.getD profile.scheduleEnabled = some true := by
          by_contra off
          exact made (whenOff off)
        exact ⟨⟨fun _ => was, fun _ => on⟩, fun _ => (whenOn on).2.symm.trans stored⟩
      · rintro ⟨same, kept⟩
        exact ⟨fun _ => ⟨made, stored.trans (kept was).symm⟩, fun off => absurd (same.mpr was) off⟩
    · have none := holds.agrees.job_eq_none distinct member was
      constructor
      · rintro ⟨whenOn, -⟩
        have off : enabled.getD profile.scheduleEnabled ≠ some true :=
          fun on => (whenOn on).1 none
        exact ⟨⟨fun on => absurd on off, fun on => absurd on was⟩, fun on => absurd on was⟩
      · rintro ⟨same, -⟩
        exact ⟨fun on => absurd (same.mp on) was, fun _ => none⟩
  exact ⟨rfl, fun result => job.mp result.agrees, fun met => ⟨job.mpr met, holds.zero⟩⟩

end

theorem toggleSchedule_iff (holds : Holds before) {now : Int}
    {enabled : Bool} {intervalHours : Option Int}
    (committed : toggleSchedule before now userId profileId enabled intervalHours = .ok after) :
    after.running = before.running ∧ (Holds after ↔ (enabled = true →
      ∀ profile ∈ before.profiles.rows, profile.id = profileId →
        Schedulable now profileId (toggledInterval profile intervalHours))) := by
  obtain ⟨profile, owned, committed⟩ := bind_ok_iff.mp committed
  obtain ⟨_, -, committed⟩ := bind_ok_iff.mp committed
  obtain rfl := pure_ok_iff.mp committed
  obtain ⟨member, rfl⟩ := ownedProfile_ok owned
  have distinct := before.profiles.distinct
  rw [forall_row_iff member]
  refine ⟨rfl, ?_⟩
  generalize toggledInterval profile intervalHours = stored
  cases enabled with
  | false =>
    refine ⟨fun _ => nofun, fun _ => ⟨?_, ?_⟩⟩
    · refine (agrees_write_iff holds.agrees distinct member (fun id different => ?_) _ _).mpr
        ⟨nofun, fun _ => ?_⟩
      · show (removeSchedule before.jobs profile.id).1 id = before.jobs id
        unfold removeSchedule
        split
        · rfl
        · exact Function.update_of_ne different _ _
      · show (removeSchedule before.jobs profile.id).1 profile.id = none
        unfold removeSchedule
        split
        · rename_i zero
          have same : profile.id = 0 := by omega
          rw [same]
          exact holds.zero
        · exact Function.update_self _ _ _
    · show (removeSchedule before.jobs profile.id).1 0 = none
      unfold removeSchedule
      split
      · exact holds.zero
      · rename_i positive
        dsimp only
        rw [Function.update_of_ne (by omega)]
        exact holds.zero
  | true =>
    have others : ∀ id, id ≠ profile.id →
        (addSchedule now before.jobs profile.id (scheduledInterval stored)).1 id =
          before.jobs id := fun id different => addSchedule_other now before.jobs _ different
    have free : profile.id < 1 → before.jobs profile.id = none := fun zero => by
      have same : profile.id = 0 := by omega
      rw [same]
      exact holds.zero
    have made := fun count =>
      addSchedule_self_iff now before.jobs profile.id (scheduledInterval stored) count free
    have written := agrees_write_iff holds.agrees distinct member others (some true) stored
    constructor
    · intro result _
      obtain ⟨some_, same⟩ := (written.mp result.agrees).1 rfl
      cases stored with
      | none => exact absurd same some_
      | some count =>
        obtain ⟨positive, normal, accepted⟩ := (made count).mp same
        refine ⟨positive, count, rfl, ?_, accepted⟩
        unfold normalizedIntervalHours scheduledInterval at normal
        dsimp only at normal
        split at normal
        · omega
        · omega
    · intro met
      obtain ⟨positive, count, rfl, large, accepted⟩ := met rfl
      have hours : scheduledInterval (some count) = count := if_neg (by omega)
      have same : (addSchedule now before.jobs profile.id (scheduledInterval (some count))).1
          profile.id = some count := by
        refine (made count).mpr ⟨positive, ?_, accepted⟩
        rw [hours, normalizedIntervalHours_of_pos large]
      refine ⟨written.mpr ⟨fun _ => ?_, fun off => absurd rfl off⟩, ?_⟩
      · rw [same]
        exact ⟨nofun, rfl⟩
      · show (addSchedule now before.jobs profile.id (scheduledInterval (some count))).1 0 = none
        rw [others 0 (by omega)]
        exact holds.zero

omit [IntervalTriggers] in
theorem startSearch_iff (holds : Holds before) {userId : Nat}
    {id : Option Int} {enabled : Given Bool} {hours : Given Int}
    (committed : startSearch before userId id enabled hours = .ok after) :
    after.running = before.running ∧
      (Holds after ↔ (id = none ∨ id = some 0 → enabled ≠ some (some true))) := by
  have flat : enabled.getD none ≠ some true ↔ enabled ≠ some (some true) := by
    cases enabled with
    | none => exact ⟨fun _ => nofun, fun _ => nofun⟩
    | some value => exact ⟨fun off on => off (Option.some.inj on), fun off on => off (on ▸ rfl)⟩
  obtain ⟨_, -, committed⟩ := bind_ok_iff.mp committed
  cases id with
  | none =>
    obtain ⟨same, made⟩ := createProfile_iff holds committed
    rw [made, flat]
    exact ⟨same, fun off _ => off, fun off => off (.inl rfl)⟩
  | some given =>
    dsimp only at committed
    by_cases zero : given = 0
    · subst zero
      rw [if_pos rfl] at committed
      obtain ⟨_, -, committed⟩ := bind_ok_iff.mp committed
      split at committed
      · rename_i fresh
        obtain rfl := pure_ok_iff.mp committed
        have inserted : Agrees (before.profiles.rows ++
            [newProfile 0 userId (enabled.getD none) (hours.getD none)]) before.jobs ↔ _ :=
          agrees_insert_iff holds.agrees fresh
        have on : (newProfile 0 userId (enabled.getD none) (hours.getD none)).scheduleEnabled ≠
            some true ↔ enabled.getD none ≠ some true := by
          unfold newProfile
          cases enabled.getD none with
          | none => exact ⟨fun _ => nofun, fun _ => nofun⟩
          | some value => exact Iff.rfl
        rw [on, flat] at inserted
        exact ⟨rfl, fun result _ => inserted.mp result.agrees,
          fun off => ⟨inserted.mpr (off (.inr rfl)), holds.zero⟩⟩
      · cases committed
    · rw [if_neg zero] at committed
      split at committed
      · cases committed
      · obtain ⟨_, -, committed⟩ := bind_ok_iff.mp committed
        obtain rfl := pure_ok_iff.mp committed
        refine ⟨rfl, fun _ new => ?_, fun _ => holds⟩
        rcases new with new | new
        · cases new
        · exact absurd (Option.some.inj new) zero

omit [IntervalTriggers] in
theorem deleteProfile_iff (holds : Holds before)
    {commits : Bool} (committed : deleteProfile before userId profileId commits = .ok after) :
    after.running = before.running ∧ (Holds after ↔ (commits = true ∨
      ∀ profile ∈ before.profiles.rows, profile.id = profileId →
        profile.scheduleEnabled ≠ some true)) := by
  obtain ⟨profile, owned, committed⟩ := bind_ok_iff.mp committed
  obtain ⟨_, removed, committed⟩ := bind_ok_iff.mp committed
  obtain rfl := pure_ok_iff.mp committed
  obtain ⟨member, rfl⟩ := ownedProfile_ok owned
  have distinct := before.profiles.distinct
  rw [forall_row_iff member]
  have positive : ¬profile.id < 1 := by
    intro zero
    unfold removeSchedule at removed
    rw [if_pos zero] at removed
    exact refuseWhen_ok_iff.mp removed rfl
  have jobs : (removeSchedule before.jobs profile.id).1 =
      Function.update before.jobs profile.id none := by
    unfold removeSchedule
    rw [if_neg positive]
  have zero : (removeSchedule before.jobs profile.id).1 0 = none := by
    rw [jobs, Function.update_of_ne (by omega)]
    exact holds.zero
  have kept : ∀ id, (removeSchedule before.jobs profile.id).1 id ≠ none →
      id ≠ profile.id ∧ before.jobs id ≠ none := by
    intro id made
    rw [jobs] at made
    by_cases same : id = profile.id
    · rw [same, Function.update_self] at made
      exact absurd rfl made
    · rw [Function.update_of_ne same] at made
      exact ⟨same, made⟩
  refine ⟨rfl, ?_⟩
  cases commits with
  | true =>
    refine ⟨fun _ => .inl rfl, fun _ => ⟨⟨fun id made => ?_, fun row inside on => ?_⟩, zero⟩⟩
    · obtain ⟨different, made⟩ := kept id made
      obtain ⟨other, inside, same, on⟩ := holds.agrees.wanted id made
      exact ⟨other, List.mem_filter.mpr ⟨inside, decide_eq_true (same ▸ different)⟩, same, on⟩
    · obtain ⟨inside, different⟩ := List.mem_filter.mp inside
      show (removeSchedule before.jobs profile.id).1 row.id ≠ none ∧
        (removeSchedule before.jobs profile.id).1 row.id = row.scheduleIntervalHours
      rw [jobs, Function.update_of_ne (of_decide_eq_true different)]
      exact holds.agrees.scheduled row inside on
  | false =>
    constructor
    · refine fun result => .inr fun on => ?_
      have made := (result.agrees.scheduled profile member on).1
      exact (kept profile.id made).1 rfl
    · intro met
      have off : profile.scheduleEnabled ≠ some true := met.resolve_left nofun
      have none := holds.agrees.job_eq_none distinct member off
      have same : (removeSchedule before.jobs profile.id).1 = before.jobs := by
        rw [jobs, ← none, Function.update_eq_self]
      refine ⟨?_, zero⟩
      show Agrees before.profiles.rows (removeSchedule before.jobs profile.id).1
      rw [same]
      exact holds.agrees

/-- A process that starts agrees with its profiles exactly if every schedule can be made. -/
theorem start_iff (before : State) (now : Int) :
    Holds { before with
      jobs := loadSchedules now (scheduledProfiles before.profiles) fun _ => none
      running := true } ↔
      ∀ profile ∈ scheduledProfiles before.profiles,
        Schedulable now profile.id profile.scheduleIntervalHours := by
  have distinct : ((scheduledProfiles before.profiles).map SearchProfile.id).Nodup :=
    (List.filter_sublist.map _).nodup before.profiles.distinct
  have made := loadSchedules_iff now distinct (fun _ => none) fun _ _ => rfl
  have on : ∀ profile, profile ∈ scheduledProfiles before.profiles ↔
      profile ∈ before.profiles.rows ∧ profile.scheduleEnabled = some true := fun profile => by
    unfold scheduledProfiles
    rw [List.mem_filter, decide_eq_true_eq]
  constructor
  · intro result
    refine made.mp fun profile member => ?_
    obtain ⟨inside, enabled⟩ := (on profile).mp member
    exact result.agrees.scheduled profile inside enabled
  · intro able
    refine ⟨⟨fun id scheduled => ?_, fun profile inside enabled => ?_⟩, ?_⟩
    · by_contra absent
      refine scheduled (loadSchedules_other now (fun profile member same => ?_) _)
      obtain ⟨inside, enabled⟩ := (on profile).mp member
      exact absent ⟨profile, inside, same, enabled⟩
    · exact made.mpr able profile ((on profile).mpr ⟨inside, enabled⟩)
    · refine loadSchedules_other now (fun profile member same => ?_) _
      have positive := (able profile member).1
      omega

omit [IntervalTriggers] in
theorem holds_runScheduledSearch (holds : Holds state) (profileId : Nat) :
    Holds (runScheduledSearch state profileId) := by
  unfold runScheduledSearch
  split
  · exact holds
  · rename_i positive
    split
    · rename_i missing
      have unscheduled : state.jobs profileId = none := by
        by_contra scheduled
        obtain ⟨profile, inside, same, -⟩ := holds.agrees.wanted profileId scheduled
        rw [Table.find_eq_some_iff.mpr ⟨inside, same⟩] at missing
        cases missing
      have same : (removeSchedule state.jobs profileId).1 = state.jobs := by
        unfold removeSchedule
        rw [if_neg positive, ← unscheduled, Function.update_eq_self]
      rw [same]
      exact holds
    · exact holds

/-- A committed operation keeps the agreement exactly if it meets the condition. -/
theorem step_iff {action : Action}
    (holds : before.running = true → Holds before) (committed : step before action = .ok after) :
    (after.running = true → Holds after) ↔ Meets before action := by
  by_cases running : before.running = true
  · have holds := holds running
    have request : ∀ {met : Prop}, after.running = before.running ∧ (Holds after ↔ met) →
        ((after.running = true → Holds after) ↔ met) := by
      rintro met ⟨up, same⟩
      exact ⟨fun given => same.mp (given (up.trans running)), fun met _ => same.mpr met⟩
    unfold step at committed
    split at committed
    · rw [if_pos running] at committed
      cases committed
    · rw [if_pos running] at committed
      split at committed
      · cases committed
      · obtain rfl := Except.ok.inj committed
        exact ⟨fun _ => trivial, fun _ => nofun⟩
      · exact request (createProfile_iff holds committed)
      · exact request (updateProfile_iff holds committed)
      · exact request (toggleSchedule_iff holds committed)
      · exact request (startSearch_iff holds committed)
      · exact request (deleteProfile_iff holds committed)
      · obtain rfl := Except.ok.inj committed
        exact ⟨fun _ => trivial, fun _ _ => holds_runScheduledSearch holds _⟩
  · unfold step at committed
    split at committed
    · rename_i now
      rw [if_neg running] at committed
      obtain rfl := Except.ok.inj committed
      exact ⟨fun given => (start_iff before now).mp (given rfl),
        fun able _ => (start_iff before now).mpr able⟩
    · rw [if_neg running] at committed
      cases committed

end

/-- A scheduler that counts with every interval. -/
@[reducible] def IntervalTriggers.every : IntervalTriggers where
  accepts := fun _ _ => true

/-- The installation before its first start. -/
def fresh : State := ⟨Table.empty, fun _ => none, false⟩

end Scheduler

end CareerOS
