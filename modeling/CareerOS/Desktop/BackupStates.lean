/-
This file names the states between the steps of a save: preparing, moved aside,
promoted, saved. Each lasts whatever another process may do, in each of them the
original is somewhere, and each call leads from one to the next or changes nothing.
-/

import CareerOS.Desktop.BackupSave

namespace CareerOS

open Program

section

variable {Bytes Failure Result : Type}

/-! ### Calls -/

section

variable {setting : Setting (BackupFolder Bytes)} {requires stops : BackupFolder Bytes → Prop}
  {fails : Failure → BackupFolder Bytes → Prop}

/-- What holds in spite of others, and wherever the process stops. -/
structure Lasting (setting : Setting (BackupFolder Bytes))
    (requires stops : BackupFolder Bytes → Prop) : Prop where
  stable : ∀ before after, requires before → setting.relies before after → requires after
  stopped : ∀ folder, requires folder → stops folder

/-- What holds after a call that succeeds, and after one that fails. -/
def Answers (good : Result → BackupFolder Bytes → Prop) (bad : IoError → BackupFolder Bytes → Prop)
    (result : Except IoError Result) (folder : BackupFolder Bytes) : Prop :=
  match result with
  | .ok value => good value folder
  | .error error => bad error folder

variable {bad : IoError → BackupFolder Bytes → Prop}

theorem meets_systemCall
    {call : BackupFolder Bytes → Except IoError (Result × BackupFolder Bytes)}
    {good : Result → BackupFolder Bytes → Prop} (lasting : Lasting setting requires stops)
    (refused : ∀ folder, requires folder → bad .other folder)
    (succeeds : ∀ folder value next, requires folder → call folder = .ok (value, next) →
      good value next)
    (fails_ : ∀ folder error, requires folder → call folder = .error error → bad error folder) :
    Meets setting requires (systemCall call) stops (Answers good bad) fails := by
  refine meets_attempt (meets_act fun before after holds changed => ?_)
  have current := lasting.stable before after holds changed
  refine ⟨lasting.stopped after current, fun _ => refused after current, ?_⟩
  cases outcome : call after with
  | ok pair => exact succeeds after pair.1 pair.2 current outcome
  | error error => exact fails_ after error current outcome

/-- A call that changes nothing. -/
theorem meets_silentCall
    {call : BackupFolder Bytes → Except IoError (Result × BackupFolder Bytes)}
    (lasting : Lasting setting requires stops)
    (silent : ∀ folder value next, call folder = .ok (value, next) → next = folder) :
    Meets setting requires (systemCall call) stops
      (Answers (fun _ => requires) fun _ => requires) fails :=
  meets_systemCall lasting (fun _ holds => holds)
    (fun folder value next holds outcome => by rwa [silent folder value next outcome])
    fun _ _ holds _ => holds

theorem meets_syncParent (lasting : Lasting setting requires stops) :
    Meets setting requires syncParent stops (Answers (fun _ => requires) fun _ => requires) fails :=
  meets_silentCall lasting fun _ _ _ outcome =>
    (Prod.mk.inj (Except.ok.inj outcome)).2.symm

theorem meets_hook (lasting : Lasting setting requires stops) :
    Meets setting requires hook stops (Answers (fun _ => requires) fun _ => requires) fails :=
  meets_silentCall lasting fun _ _ _ outcome =>
    (Prod.mk.inj (Except.ok.inj outcome)).2.symm

/-- What is under a name, when it is asked for. -/
theorem meets_symlinkMetadata (lasting : Lasting setting requires stops) (path : Path) :
    Meets setting requires (symlinkMetadata path) stops
      (Answers (fun entry folder => requires folder ∧ folder.files.find path = some entry)
        fun error folder => requires folder ∧
          (error = .notFound → folder.files.find path = none)) fails := by
  refine meets_systemCall lasting (fun _ holds => ⟨holds, nofun⟩) ?_ ?_
  · intro folder value next holds outcome
    split at outcome
    · rename_i entry found
      obtain ⟨rfl, rfl⟩ := Prod.mk.inj (Except.ok.inj outcome)
      exact ⟨holds, found⟩
    · cases outcome
  · intro folder error holds outcome
    split at outcome
    · cases outcome
    · rename_i missing
      exact ⟨holds, fun _ => missing⟩

/-- Whatever the answer, the same holds after it. -/
theorem answers_same {result : Except IoError Result} {folder : BackupFolder Bytes}
    (holds : Answers (fun _ => requires) (fun _ => requires) result folder) : requires folder := by
  cases result with
  | ok _ => exact holds
  | error _ => exact holds

theorem meets_openFile (lasting : Lasting setting requires stops) (path : Path) :
    Meets setting requires (openFile path) stops (Answers (fun _ => requires) fun _ => requires)
      fails := by
  refine meets_silentCall lasting fun _ _ _ outcome => ?_
  split at outcome
  · exact (Prod.mk.inj (Except.ok.inj outcome)).2.symm
  · cases outcome

theorem meets_rejectSpecialFile (lasting : Lasting setting requires stops) (path : Path) :
    Meets setting requires (rejectSpecialFile path) stops
      (Answers (fun _ => requires) fun _ => requires) fails := by
  refine meets_andThen _ (meets_symlinkMetadata lasting path) fun result => ?_
  rcases result with error | ⟨_, _⟩ | _
  · exact meets_done fun _ holds => holds.1
  · exact meets_done fun _ holds => holds.1
  · exact meets_done fun _ holds => holds.1

theorem meets_fingerprint [BackupBytes Bytes] (lasting : Lasting setting requires stops)
    (path : Path) :
    Meets setting requires (fingerprint path) stops
      (Answers (fun _ => requires) fun _ => requires) fails := by
  refine meets_andThen _ (meets_rejectSpecialFile lasting path) fun result => ?_
  cases result with
  | error _ => exact meets_done fun _ holds => holds
  | ok _ =>
    refine meets_andThen _ (meets_openFile lasting path) fun result => ?_
    rcases result with error | ⟨_, _⟩ | _
    · exact meets_done fun _ holds => holds
    · exact meets_silentCall lasting fun _ _ _ outcome =>
        (Prod.mk.inj (Except.ok.inj outcome)).2.symm
    · exact meets_done fun _ holds => holds

/-- A file that is removed is gone; a removal that fails changes nothing. -/
theorem meets_removeFileIfPresent (lasting : Lasting setting requires stops) {path : Path}
    {removed : BackupFolder Bytes → Prop}
    (absent : ∀ folder, requires folder → folder.files.find path = none → removed folder)
    (gone : ∀ folder, requires folder →
      removed (folder.withFiles (folder.files.remove path))) :
    Meets setting requires (removeFileIfPresent path) stops
      (Answers (fun _ => removed) fun _ => requires) fails := by
  refine meets_andThen (Answers (fun _ => removed) fun error folder =>
    if error = .notFound then removed folder else requires folder) ?_ fun result => ?_
  · refine meets_systemCall lasting (fun _ holds => holds) ?_ ?_
    · intro folder value next holds outcome
      split at outcome
      · obtain ⟨-, rfl⟩ := Prod.mk.inj (Except.ok.inj outcome)
        exact gone folder holds
      · cases outcome
      · cases outcome
    · intro folder error holds outcome
      split at outcome
      · cases outcome
      · obtain rfl := Except.error.inj outcome
        exact holds
      · rename_i missing
        obtain rfl := Except.error.inj outcome
        exact absent folder holds missing
  · rcases result with (_ | _ | _) | _
    · exact meets_done fun _ holds => holds
    · exact meets_done fun _ holds => holds
    · exact meets_done fun _ holds => holds
    · exact meets_done fun _ holds => holds

/-- A file is found missing only when one of the two is. -/
theorem meets_sameRegularFile (lasting : Lasting setting requires stops) (left right : Path)
    {missing : BackupFolder Bytes → Prop}
    (leftMissing : ∀ folder, requires folder → folder.files.find left = none → missing folder)
    (rightMissing : ∀ folder, requires folder → folder.files.find right = none →
      missing folder) :
    Meets setting requires (sameRegularFile left right) stops
      (Answers (fun _ => requires) fun error folder =>
        if error = .notFound then missing folder else requires folder) fails := by
  unfold sameRegularFile
  refine meets_andThen _ (meets_symlinkMetadata lasting left) fun result => ?_
  rcases result with (_ | _ | _) | leftEntry
  · exact meets_done fun folder holds => leftMissing folder holds.1 (holds.2 rfl)
  · exact meets_done fun _ holds => holds.1
  · exact meets_done fun _ holds => holds.1
  · refine meets_andThen _ ((meets_symlinkMetadata lasting right).asking
      fun _ holds => holds.1) fun result => ?_
    rcases result with (_ | _ | _) | rightEntry
    · exact meets_done fun folder holds => rightMissing folder holds.1 (holds.2 rfl)
    · exact meets_done fun _ holds => holds.1
    · exact meets_done fun _ holds => holds.1
    · cases leftEntry with
      | other => exact meets_done fun _ holds => holds.1
      | file _ _ =>
        cases rightEntry with
        | other => exact meets_done fun _ holds => holds.1
        | file _ _ => exact meets_done fun _ holds => holds.1

/-- A link is made only where nothing was; without it nothing changes. -/
theorem meets_publishNoClobber (lasting : Lasting setting requires stops)
    {source destination : Path} {published : BackupFolder Bytes → Prop}
    (links : ∀ folder entry, requires folder → folder.files.find source = some entry →
      folder.files.find destination = none →
      published (folder.withFiles (folder.files.put destination entry))) :
    Meets setting requires (publishNoClobber source destination) stops
      (Answers (fun _ => published) fun _ => requires) fails := by
  refine meets_andThen _ (meets_rejectSpecialFile lasting source) fun result => ?_
  cases result with
  | error _ => exact meets_done fun _ holds => holds
  | ok _ =>
    refine meets_systemCall lasting (fun _ holds => holds) ?_ fun _ _ holds _ => holds
    intro folder value next holds outcome
    split at outcome
    · rename_i entry here there
      obtain ⟨-, rfl⟩ := Prod.mk.inj (Except.ok.inj outcome)
      exact links folder entry holds here there
    · cases outcome
    · cases outcome

variable {failure : Failure}

/-- A call that must succeed, and what comes after it. -/
theorem meets_required {Value Last : Type}
    {program : Program (BackupFolder Bytes) Failure (Except IoError Value)}
    {rest : Value → Program (BackupFolder Bytes) Failure Last}
    {good : Value → BackupFolder Bytes → Prop} {finally_ : Last → BackupFolder Bytes → Prop}
    (called : Meets setting requires program stops (Answers good bad) fails)
    (failed : ∀ error folder, bad error folder → fails failure folder)
    (later : ∀ value, Meets setting (good value) (rest value) stops finally_ fails) :
    Meets setting requires
      (andThen program fun result => andThen (required failure result) rest) stops finally_
      fails := by
  refine meets_andThen _ called fun result => ?_
  refine meets_andThen good ?_ later
  cases result with
  | ok value => exact meets_done fun _ holds => holds
  | error error => exact meets_fail fun folder holds => failed error folder holds

/-- A call that must succeed, at the end. -/
theorem meets_requiredLast {Value : Type}
    {program : Program (BackupFolder Bytes) Failure (Except IoError Value)}
    {good : Value → BackupFolder Bytes → Prop}
    (called : Meets setting requires program stops (Answers good bad) fails)
    (failed : ∀ error folder, bad error folder → fails failure folder) :
    Meets setting requires (andThen program fun result => required failure result) stops good
      fails := by
  refine meets_andThen _ called fun result => ?_
  cases result with
  | ok value => exact meets_done fun _ holds => holds
  | error error => exact meets_fail fun folder holds => failed error folder holds

/-- A fingerprint that is compared, and what comes after it. -/
theorem meets_compared [BackupBytes Bytes] {Last : Type} {path : Path}
    {expected : Nat × String} {rest : Program (BackupFolder Bytes) Failure Last}
    {finally_ : Last → BackupFolder Bytes → Prop} (lasting : Lasting setting requires stops)
    (failed : ∀ folder, requires folder → fails failure folder)
    (later : Meets setting requires rest stops finally_ fails) :
    Meets setting requires
      (andThen (fingerprint path) fun found =>
        andThen (refuseWhen (found.toOption ≠ some expected) failure) fun _ => rest)
      stops finally_ fails := by
  refine meets_andThen _ (meets_fingerprint lasting path) fun found => ?_
  refine meets_andThen _ (meets_refuseWhen fun folder holds _ =>
    failed folder (answers_same holds)) fun _ => ?_
  exact later.asking fun _ holds => answers_same holds.1

end

/-! ### Between the steps -/

section

variable {start : Files Bytes} {destination part rollbackPath : Path}

/-- The names of one save. -/
structure SidecarNames (start : Files Bytes) (destination part rollbackPath : Path) : Prop where
  partOther : part ≠ destination
  rollbackOther : rollbackPath ≠ destination
  apart : part ≠ rollbackPath
  partFresh : start.find part = none
  rollbackFresh : start.find rollbackPath = none

/-- Nothing but the three names of a save has changed. -/
def OtherNamesKept (start : Files Bytes) (destination part rollbackPath : Path)
    (folder : BackupFolder Bytes) : Prop :=
  ∀ path, path ≠ destination → path ≠ part → path ≠ rollbackPath →
    folder.files.find path = start.find path

/-- The destination has not been touched. -/
structure Preparing (start : Files Bytes) (destination part rollbackPath : Path)
    (held : Option (Entry Bytes)) (folder : BackupFolder Bytes) : Prop where
  elsewhere : OtherNamesKept start destination part rollbackPath folder
  there : folder.files.find destination = start.find destination
  aside : folder.files.find rollbackPath = none
  sidecar : folder.files.find part = held
  created : folder.created = []

/-- The original is under the name of the rollback file. -/
structure MovedAside (start : Files Bytes) (destination part rollbackPath : Path)
    (held : Option (Entry Bytes)) (folder : BackupFolder Bytes) : Prop where
  elsewhere : OtherNamesKept start destination part rollbackPath folder
  existed : start.find destination ≠ none
  aside : folder.files.find rollbackPath = start.find destination
  sidecar : folder.files.find part = held
  created : ∀ entry ∈ folder.created, folder.files.find destination = some entry

/-- A file is under the destination, and what was there before under the name of the rollback
file. -/
structure Promoted (start : Files Bytes) (destination part rollbackPath : Path)
    (ours : Entry Bytes) (held : Option (Entry Bytes)) (folder : BackupFolder Bytes) : Prop where
  elsewhere : OtherNamesKept start destination part rollbackPath folder
  there : folder.files.find destination = some ours
  aside : folder.files.find rollbackPath = start.find destination
  sidecar : folder.files.find part = held
  created : folder.created = []

/-- The destination holds a file, and nothing else has changed. -/
structure Saved (start : Files Bytes) (destination : Path) (ours : Entry Bytes)
    (folder : BackupFolder Bytes) : Prop where
  there : folder.files.find destination = some ours
  elsewhere : ∀ path, path ≠ destination → folder.files.find path = start.find path
  created : folder.created = []

/-- Nothing has changed. -/
structure Unchanged (start : Files Bytes) (folder : BackupFolder Bytes) : Prop where
  find : ∀ path, folder.files.find path = start.find path
  created : folder.created = []

/-- What another process created is still there, and the original is under the destination or under
the name of a rollback file. -/
structure OriginalKept (start : Files Bytes) (destination : Path) (rollbacks : List Path)
    (folder : BackupFolder Bytes) : Prop where
  created : ∀ entry ∈ folder.created, folder.files.find destination = some entry
  original : ∀ entry, start.find destination = some entry →
    folder.files.find destination = some entry ∨
      ∃ path ∈ rollbacks, folder.files.find path = some entry

/-- Where a save may be stopped: the original is kept, or the new bytes are all there. -/
def SafelyStopped (start : Files Bytes) (destination : Path) (rollbacks : List Path)
    (bytes : Bytes) (folder : BackupFolder Bytes) : Prop :=
  OriginalKept start destination rollbacks folder ∨
    ∃ inode, Saved start destination (.file inode bytes) folder

variable {held : Option (Entry Bytes)} {ours : Entry Bytes} {folder : BackupFolder Bytes}
  {rollbacks : List Path} {bytes : Bytes}

theorem Unchanged.kept (unchanged : Unchanged start folder) :
    OriginalKept start destination rollbacks folder := by
  refine ⟨fun entry member => ?_, fun entry here => .inl ((unchanged.find _).trans here)⟩
  rw [unchanged.created] at member
  cases member

theorem Preparing.kept (state : Preparing start destination part rollbackPath held folder) :
    OriginalKept start destination rollbacks folder := by
  refine ⟨fun entry member => ?_, fun entry here => .inl (state.there.trans here)⟩
  rw [state.created] at member
  cases member

theorem MovedAside.kept (state : MovedAside start destination part rollbackPath held folder)
    (among : rollbackPath ∈ rollbacks) : OriginalKept start destination rollbacks folder :=
  ⟨state.created, fun _ here => .inr ⟨rollbackPath, among, state.aside.trans here⟩⟩

theorem Promoted.kept (state : Promoted start destination part rollbackPath ours held folder)
    (among : rollbackPath ∈ rollbacks) : OriginalKept start destination rollbacks folder := by
  refine ⟨fun entry member => ?_, fun _ here => .inr ⟨rollbackPath, among, state.aside.trans here⟩⟩
  rw [state.created] at member
  cases member

variable {entry : Entry Bytes}

/-- While something is under the destination nobody creates it. -/
theorem not_creates {after : BackupFolder Bytes}
    (held : folder.files.find destination = some entry) :
    ¬Creates destination (start.find destination) folder after := by
  rintro ⟨-, none, -⟩
  rw [held] at none
  cases none

theorem lasting_unchanged : Lasting (backupSetting destination (start.find destination))
    (Unchanged start) (SafelyStopped start destination rollbacks bytes) where
  stable before after holds changed := by
    rcases changed with rfl | ⟨existed, none, -⟩
    · exact holds
    · rw [holds.find] at none
      exact absurd none existed
  stopped _ holds := .inl holds.kept

theorem lasting_preparing : Lasting (backupSetting destination (start.find destination))
    (Preparing start destination part rollbackPath held)
    (SafelyStopped start destination rollbacks bytes) where
  stable before after holds changed := by
    rcases changed with rfl | ⟨existed, none, -⟩
    · exact holds
    · rw [holds.there] at none
      exact absurd none existed
  stopped _ holds := .inl holds.kept

theorem lasting_promoted (among : rollbackPath ∈ rollbacks) :
    Lasting (backupSetting destination (start.find destination))
      (Promoted start destination part rollbackPath ours held)
      (SafelyStopped start destination rollbacks bytes) where
  stable before after holds changed := by
    rcases changed with rfl | creates
    · exact holds
    · exact absurd creates (not_creates holds.there)
  stopped _ holds := .inl (holds.kept among)

theorem lasting_movedAside (names : SidecarNames start destination part rollbackPath)
    (among : rollbackPath ∈ rollbacks) :
    Lasting (backupSetting destination (start.find destination))
      (MovedAside start destination part rollbackPath held)
      (SafelyStopped start destination rollbacks bytes) where
  stable before after holds changed := by
    rcases changed with rfl | ⟨-, none, inode, bytes, -, rfl⟩
    · exact holds
    · refine ⟨fun path other notPart notRollback => ?_, holds.existed, ?_, ?_, ?_⟩
      · exact (Files.find_put_of_ne _ other _).trans
          (holds.elsewhere path other notPart notRollback)
      · exact (Files.find_put_of_ne _ names.rollbackOther _).trans holds.aside
      · exact (Files.find_put_of_ne _ names.partOther _).trans holds.sidecar
      · intro entry member
        rcases List.mem_append.mp member with old | new
        · rw [holds.created entry old] at none
          cases none
        · rw [List.mem_singleton.mp new]
          exact Files.find_put_self _ _ _
  stopped _ holds := .inl (holds.kept among)

theorem lasting_saved {inode : Nat} : Lasting (backupSetting destination (start.find destination))
    (Saved start destination (.file inode bytes))
    (SafelyStopped start destination rollbacks bytes) where
  stable before after holds changed := by
    rcases changed with rfl | creates
    · exact holds
    · exact absurd creates (not_creates holds.there)
  stopped _ holds := .inr ⟨inode, holds⟩

theorem Lasting.or {setting : Setting (BackupFolder Bytes)}
    {first second stops : BackupFolder Bytes → Prop} (one : Lasting setting first stops)
    (other : Lasting setting second stops) :
    Lasting setting (fun folder => first folder ∨ second folder) stops where
  stable before after holds changed :=
    holds.imp (fun here => one.stable before after here changed)
      fun here => other.stable before after here changed
  stopped folder holds := holds.elim (one.stopped folder) (other.stopped folder)

theorem Lasting.and {setting : Setting (BackupFolder Bytes)} (fact : Prop)
    {holds stops : BackupFolder Bytes → Prop} (lasting : Lasting setting holds stops) :
    Lasting setting (fun folder => fact ∧ holds folder) stops where
  stable before after both changed := ⟨both.1, lasting.stable before after both.2 changed⟩
  stopped folder both := lasting.stopped folder both.2

/-! ### What the calls of a save do -/

/-- Before the file is promoted: an original has been moved aside, or there is none. -/
def Ready (start : Files Bytes) (destination part rollbackPath : Path)
    (held : Option (Entry Bytes)) (folder : BackupFolder Bytes) : Prop :=
  (start.find destination = none ∧
    Preparing start destination part rollbackPath held folder) ∨
  MovedAside start destination part rollbackPath held folder

theorem lasting_ready (names : SidecarNames start destination part rollbackPath)
    (among : rollbackPath ∈ rollbacks) :
    Lasting (backupSetting destination (start.find destination))
      (Ready start destination part rollbackPath held)
      (SafelyStopped start destination rollbacks bytes) :=
  (lasting_preparing.and _).or (lasting_movedAside names among)

/-- The part is written. -/
theorem Preparing.write (names : SidecarNames start destination part rollbackPath)
    (state : Preparing start destination part rollbackPath held folder) (entry : Entry Bytes) :
    Preparing start destination part rollbackPath (some entry)
      (folder.withFiles (folder.files.put part entry)) where
  elsewhere path other notPart notRollback :=
    (Files.find_put_of_ne _ notPart _).trans (state.elsewhere path other notPart notRollback)
  there := (Files.find_put_of_ne _ names.partOther.symm _).trans state.there
  aside := (Files.find_put_of_ne _ names.apart.symm _).trans state.aside
  sidecar := Files.find_put_self _ _ _
  created := state.created

/-- The original is moved. -/
theorem Preparing.move (names : SidecarNames start destination part rollbackPath)
    (state : Preparing start destination part rollbackPath held folder)
    (found : folder.files.find destination = some entry) :
    MovedAside start destination part rollbackPath held
      (folder.withFiles ((folder.files.put rollbackPath entry).remove destination)) where
  elsewhere path other notPart notRollback :=
    (Files.find_remove_of_ne _ other).trans ((Files.find_put_of_ne _ notRollback _).trans
      (state.elsewhere path other notPart notRollback))
  existed := by
    rw [← state.there, found]
    exact Option.some_ne_none _
  aside := by
    rw [← state.there, found]
    exact (Files.find_remove_of_ne _ names.rollbackOther).trans (Files.find_put_self _ _ _)
  sidecar := (Files.find_remove_of_ne _ names.partOther).trans
    ((Files.find_put_of_ne _ names.apart _).trans state.sidecar)
  created entry member := by
    have none : folder.created = [] := state.created
    exact absurd (none ▸ member : entry ∈ []) List.not_mem_nil

/-- The part is linked to the destination. -/
theorem Ready.publish (names : SidecarNames start destination part rollbackPath)
    (state : Ready start destination part rollbackPath (some ours) folder)
    (here : folder.files.find part = some entry)
    (free : folder.files.find destination = none) :
    Promoted start destination part rollbackPath ours (some ours)
      (folder.withFiles (folder.files.put destination entry)) := by
  have facts : OtherNamesKept start destination part rollbackPath folder ∧
      folder.files.find part = some ours ∧
      folder.files.find rollbackPath = start.find destination ∧ folder.created = [] := by
    rcases state with ⟨absent, state⟩ | state
    · exact ⟨state.elsewhere, state.sidecar, state.aside.trans absent.symm, state.created⟩
    · refine ⟨state.elsewhere, state.sidecar, state.aside, List.eq_nil_iff_forall_not_mem.mpr ?_⟩
      intro made member
      rw [state.created made member] at free
      cases free
  obtain ⟨elsewhere, sidecar, aside, created⟩ := facts
  rw [sidecar] at here
  obtain rfl := Option.some.inj here
  exact {
    elsewhere := fun path other notPart notRollback =>
      (Files.find_put_of_ne _ other _).trans (elsewhere path other notPart notRollback)
    there := Files.find_put_self _ _ _
    aside := (Files.find_put_of_ne _ names.rollbackOther _).trans aside
    sidecar := (Files.find_put_of_ne _ names.partOther _).trans sidecar
    created := created }

/-- The part is removed. -/
theorem Preparing.dropPart (names : SidecarNames start destination part rollbackPath)
    (state : Preparing start destination part rollbackPath held folder) :
    Preparing start destination part rollbackPath none
      (folder.withFiles (folder.files.remove part)) where
  elsewhere path other notPart notRollback :=
    (Files.find_remove_of_ne _ notPart).trans (state.elsewhere path other notPart notRollback)
  there := (Files.find_remove_of_ne _ names.partOther.symm).trans state.there
  aside := (Files.find_remove_of_ne _ names.apart.symm).trans state.aside
  sidecar := Files.find_remove_self _ _
  created := state.created

theorem MovedAside.dropPart (names : SidecarNames start destination part rollbackPath)
    (state : MovedAside start destination part rollbackPath held folder) :
    MovedAside start destination part rollbackPath none
      (folder.withFiles (folder.files.remove part)) where
  elsewhere path other notPart notRollback :=
    (Files.find_remove_of_ne _ notPart).trans (state.elsewhere path other notPart notRollback)
  existed := state.existed
  aside := (Files.find_remove_of_ne _ names.apart.symm).trans state.aside
  sidecar := Files.find_remove_self _ _
  created entry member := (Files.find_remove_of_ne _ names.partOther.symm).trans
    (state.created entry member)

theorem Promoted.dropPart (names : SidecarNames start destination part rollbackPath)
    (state : Promoted start destination part rollbackPath ours held folder) :
    Promoted start destination part rollbackPath ours none
      (folder.withFiles (folder.files.remove part)) where
  elsewhere path other notPart notRollback :=
    (Files.find_remove_of_ne _ notPart).trans (state.elsewhere path other notPart notRollback)
  there := (Files.find_remove_of_ne _ names.partOther.symm).trans state.there
  aside := (Files.find_remove_of_ne _ names.apart.symm).trans state.aside
  sidecar := Files.find_remove_self _ _
  created := state.created

/-- The promoted file is taken back. -/
theorem Promoted.takeBack (names : SidecarNames start destination part rollbackPath)
    (state : Promoted start destination part rollbackPath ours held folder) :
    Ready start destination part rollbackPath held
      (folder.withFiles (folder.files.remove destination)) := by
  have elsewhere : OtherNamesKept start destination part rollbackPath
      (folder.withFiles (folder.files.remove destination)) :=
    fun path other notPart notRollback => (Files.find_remove_of_ne _ other).trans
      (state.elsewhere path other notPart notRollback)
  have aside : (folder.files.remove destination).find rollbackPath = start.find destination :=
    (Files.find_remove_of_ne _ names.rollbackOther).trans state.aside
  have sidecar : (folder.files.remove destination).find part = held :=
    (Files.find_remove_of_ne _ names.partOther).trans state.sidecar
  by_cases absent : start.find destination = none
  · exact .inl ⟨absent, {
      elsewhere, sidecar
      there := (Files.find_remove_self _ _).trans absent.symm
      aside := aside.trans absent
      created := state.created }⟩
  · refine .inr ⟨elsewhere, absent, aside, sidecar, fun entry member => ?_⟩
    have none : folder.created = [] := state.created
    exact absurd (none ▸ member : entry ∈ []) List.not_mem_nil

/-- Without its sidecars a promoted file is all that has changed. -/
theorem Promoted.saved (names : SidecarNames start destination part rollbackPath)
    (state : Promoted start destination part rollbackPath ours none folder)
    (gone : folder.files.find rollbackPath = none) : Saved start destination ours folder where
  there := state.there
  elsewhere path other := by
    by_cases notPart : path = part
    · rw [notPart, state.sidecar, names.partFresh]
    · by_cases notRollback : path = rollbackPath
      · rw [notRollback, gone, names.rollbackFresh]
      · exact state.elsewhere path other notPart notRollback
  created := state.created

theorem Promoted.dropRollback (names : SidecarNames start destination part rollbackPath)
    (state : Promoted start destination part rollbackPath ours none folder) :
    Saved start destination ours (folder.withFiles (folder.files.remove rollbackPath)) where
  there := (Files.find_remove_of_ne _ names.rollbackOther.symm).trans state.there
  elsewhere path other := by
    show (folder.files.remove rollbackPath).find path = start.find path
    by_cases notRollback : path = rollbackPath
    · rw [notRollback, Files.find_remove_self, names.rollbackFresh]
    · rw [Files.find_remove_of_ne _ notRollback]
      by_cases notPart : path = part
      · rw [notPart, state.sidecar, names.partFresh]
      · exact state.elsewhere path other notPart notRollback
  created := state.created

end

end

end CareerOS
