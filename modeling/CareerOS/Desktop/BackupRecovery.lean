/-
This file proves what a save of a backup leaves, whichever of its calls fail and
whenever another process creates the destination: the operation ends in one of the
states that its flags tell apart, and the rollback finds its way back from every one
of them or keeps the original.
-/

import CareerOS.Desktop.BackupStates

namespace CareerOS

open Program

variable {Bytes : Type} {start : Files Bytes}
  {destination part rollbackPath : Path} {held : Option (Entry Bytes)} {ours : Entry Bytes}
  {rollbacks : List Path} {bytes : Bytes}

/-! ### The operation -/

/-- A state that lasts during a save. -/
abbrev Lasts (start : Files Bytes) (destination : Path) (rollbacks : List Path) (bytes : Bytes)
    (state : BackupFolder Bytes → Prop) : Prop :=
  Lasting (backupSetting destination (start.find destination)) state
    (SafelyStopped start destination rollbacks bytes)

/-- The file is promoted; its part is gone only when there is an original. -/
def LeftPromoted (start : Files Bytes) (destination part rollbackPath : Path)
    (ours : Entry Bytes) (folder : BackupFolder Bytes) : Prop :=
  Promoted start destination part rollbackPath ours (some ours) folder ∨
    (start.find destination ≠ none ∧
      Promoted start destination part rollbackPath ours none folder)

/-- The states in which the operation may fail, by its flags. -/
def OperationFailed (start : Files Bytes) (destination part rollbackPath : Path)
    (failed : OperationFailure) (folder : BackupFolder Bytes) : Prop :=
  failed.error = .ioFailure ∧
  match failed.originalMoved, failed.promoted with
  | false, false => ∃ held, Preparing start destination part rollbackPath held folder
  | true, false => ∃ held, MovedAside start destination part rollbackPath held folder
  | moved, true => moved = (start.find destination).isSome ∧
      ∃ ours, LeftPromoted start destination part rollbackPath ours folder

/-- How the operation ends. -/
def OperationEnded (start : Files Bytes) (destination part rollbackPath : Path)
    (ours : Entry Bytes) : Except OperationFailure Unit → BackupFolder Bytes → Prop
  | .ok () => Saved start destination ours
  | .error failure => OperationFailed start destination part rollbackPath failure

variable {folder : BackupFolder Bytes}

theorem Ready.failed {moved : Bool} (same : moved = (start.find destination).isSome)
    (state : Ready start destination part rollbackPath held folder) :
    OperationFailed start destination part rollbackPath ⟨.ioFailure, moved, false⟩ folder := by
  rcases state with ⟨absent, state⟩ | state
  · rw [same, absent]
    exact ⟨rfl, _, state⟩
  · rw [same, Option.isSome_iff_ne_none.mpr state.existed]
    exact ⟨rfl, _, state⟩

theorem meets_rename {Failure : Type} {fails : Failure → BackupFolder Bytes → Prop}
    (names : SidecarNames start destination part rollbackPath) :
    Meets (backupSetting destination (start.find destination))
      (Preparing start destination part rollbackPath held) (rename destination rollbackPath)
      (SafelyStopped start destination rollbacks bytes)
      (Answers (fun _ => MovedAside start destination part rollbackPath held)
        fun _ => Preparing start destination part rollbackPath held) fails := by
  refine meets_systemCall lasting_preparing (fun _ state => state) ?_ fun _ _ state _ => state
  intro folder value next state outcome
  split at outcome
  · rename_i entry found
    obtain ⟨-, rfl⟩ := Prod.mk.inj (Except.ok.inj outcome)
    exact state.move names found
  · cases outcome

theorem meets_writeAll {Failure : Type} {fails : Failure → BackupFolder Bytes → Prop}
    (names : SidecarNames start destination part rollbackPath) {inode : Nat} {old : Bytes} :
    Meets (backupSetting destination (start.find destination))
      (Preparing start destination part rollbackPath (some (.file inode old)))
      (writeAll part bytes) (SafelyStopped start destination rollbacks bytes)
      (Answers (fun _ => Preparing start destination part rollbackPath (some (.file inode bytes)))
        fun _ => Preparing start destination part rollbackPath (some (.file inode old))) fails := by
  refine meets_systemCall lasting_preparing (fun _ state => state) ?_ fun _ _ state _ => state
  intro folder value next state outcome
  rw [state.sidecar] at outcome
  obtain ⟨-, rfl⟩ := Prod.mk.inj (Except.ok.inj outcome)
  exact state.write names _

variable {original : Option (Nat × String)}

/-- The original is moved aside, when there is one. -/
theorem meets_moveAside [BackupBytes Bytes] (names : SidecarNames start destination part rollbackPath)
    (among : rollbackPath ∈ rollbacks) (same : original.isSome = (start.find destination).isSome) :
    Meets (backupSetting destination (start.find destination))
      (Preparing start destination part rollbackPath held)
      (moveAside destination rollbackPath original)
      (SafelyStopped start destination rollbacks bytes)
      (fun _ => Ready start destination part rollbackPath held)
      (OperationFailed start destination part rollbackPath) := by
  cases original with
  | none =>
    have absent : start.find destination = none := by
      rw [← Option.isNone_iff_eq_none, ← Option.not_isSome, ← same]
      rfl
    exact meets_done fun _ state => .inl ⟨absent, state⟩
  | some expected =>
    refine meets_andThen _ (meets_symlinkMetadata lasting_preparing rollbackPath) fun result => ?_
    cases result with
    | ok _ => exact meets_fail fun _ state => ⟨rfl, _, state.1⟩
    | error _ =>
      have aside : Lasts start destination rollbacks bytes
          (MovedAside start destination part rollbackPath held) := lasting_movedAside names among
      refine meets_required ((meets_rename names).asking fun _ state => state.1)
        (fun _ _ state => ⟨rfl, _, state⟩) fun _ => ?_
      refine meets_required (meets_syncParent aside) (fun _ _ state => ⟨rfl, _, state⟩) fun _ => ?_
      refine meets_andThen _ (meets_fingerprint aside rollbackPath) fun found => ?_
      exact (meets_refuseWhen fun folder state _ => ⟨rfl, _, answers_same state⟩).promising
        fun _ _ state => .inr (answers_same state.1)

/-- A save that succeeds has changed nothing but the destination. -/
theorem meets_promote [BackupBytes Bytes]
    (names : SidecarNames start destination part rollbackPath)
    (among : rollbackPath ∈ rollbacks) {inode : Nat} {moved : Bool} (expected : Nat × String)
    (same : moved = (start.find destination).isSome) :
    Meets (backupSetting destination (start.find destination))
      (Ready start destination part rollbackPath (some (.file inode bytes)))
      (promote destination part rollbackPath expected moved)
      (SafelyStopped start destination rollbacks bytes)
      (fun _ => Saved start destination (.file inode bytes))
      (OperationFailed start destination part rollbackPath) := by
  have ready : Lasts start destination rollbacks bytes
      (Ready start destination part rollbackPath (some (.file inode bytes))) :=
    lasting_ready names among
  have promoted : Lasts start destination rollbacks bytes
      (Promoted start destination part rollbackPath (.file inode bytes)
        (some (.file inode bytes))) := lasting_promoted among
  have bare : Lasts start destination rollbacks bytes
      (Promoted start destination part rollbackPath (.file inode bytes) none) :=
    lasting_promoted among
  have failed : ∀ folder, Promoted start destination part rollbackPath (.file inode bytes)
      (some (.file inode bytes)) folder →
      OperationFailed start destination part rollbackPath ⟨.ioFailure, moved, true⟩ folder :=
    fun folder state => by
      cases moved with
      | true => exact ⟨rfl, same, _, .inl state⟩
      | false => exact ⟨rfl, same, _, .inl state⟩
  refine meets_required (meets_hook ready) (fun _ _ state => state.failed same) fun _ => ?_
  refine meets_required (meets_publishNoClobber ready fun folder entry state here free =>
    state.publish names here free) (fun _ _ state => state.failed same) fun _ => ?_
  refine meets_required (meets_syncParent promoted) (fun _ => failed) fun _ => ?_
  refine meets_required (meets_hook promoted) (fun _ => failed) fun _ => ?_
  refine meets_compared promoted failed ?_
  refine meets_required (meets_removeFileIfPresent promoted
    (fun folder state absent => ?_) fun folder state => state.dropPart names) (fun _ => failed)
    fun _ => ?_
  · rw [state.sidecar] at absent
    cases absent
  cases moved with
  | false =>
    have absent : start.find destination = none := by
      rw [← Option.isNone_iff_eq_none, ← Option.not_isSome, ← same]
      rfl
    exact meets_done fun folder state => state.saved names (state.aside.trans absent)
  | true =>
    have existed : start.find destination ≠ none := Option.isSome_iff_ne_none.mp same.symm
    refine meets_required (meets_removeFileIfPresent bare
      (fun folder state absent => state.saved names absent)
      fun folder state => state.dropRollback names)
      (fun _ _ state => ⟨rfl, same, _, .inr ⟨existed, state⟩⟩) fun _ => ?_
    exact meets_andThen _ (meets_syncParent lasting_saved) fun _ =>
      meets_done fun _ state => answers_same state

/-- The operation saves the bytes, or fails in one of the states of its flags. -/
theorem meets_saveOperation [BackupBytes Bytes]
    (names : SidecarNames start destination part rollbackPath)
    (among : rollbackPath ∈ rollbacks) {inode : Nat} {old : Bytes}
    (expectedSha256 : String) (same : original.isSome = (start.find destination).isSome) :
    Meets (backupSetting destination (start.find destination))
      (Preparing start destination part rollbackPath (some (.file inode old)))
      (saveOperation destination part rollbackPath bytes expectedSha256 original)
      (SafelyStopped start destination rollbacks bytes)
      (fun _ => Saved start destination (.file inode bytes))
      (OperationFailed start destination part rollbackPath) := by
  refine meets_required (meets_writeAll names) (fun _ _ state => ⟨rfl, _, state⟩) fun _ => ?_
  refine meets_compared lasting_preparing (fun _ state => ⟨rfl, _, state⟩) ?_
  exact meets_andThen _ (meets_moveAside names among same) fun _ =>
    meets_promote names among _ same

/-! ### The rollback -/

/-- A rollback that fails has still kept the original. -/
def RollbackFailed (start : Files Bytes) (destination : Path) (rollbacks : List Path)
    (error : BackupSaveError) (folder : BackupFolder Bytes) : Prop :=
  error = .rollbackFailure ∧ OriginalKept start destination rollbacks folder

/-- The original is linked to its own name again. -/
theorem MovedAside.publish {original : Entry Bytes}
    (names : SidecarNames start destination part rollbackPath)
    (state : MovedAside start destination part rollbackPath none folder)
    (free : folder.files.find destination = none) :
    Promoted start destination part rollbackPath original none
      (folder.withFiles (folder.files.put destination original)) where
  elsewhere path other notPart notRollback :=
    (Files.find_put_of_ne _ other _).trans (state.elsewhere path other notPart notRollback)
  there := Files.find_put_self _ _ _
  aside := (Files.find_put_of_ne _ names.rollbackOther _).trans state.aside
  sidecar := (Files.find_put_of_ne _ names.partOther _).trans state.sidecar
  created := by
    refine List.eq_nil_iff_forall_not_mem.mpr fun made member => ?_
    rw [state.created made member] at free
    cases free

theorem Saved.unchanged {original : Entry Bytes} (existing : start.find destination = some original)
    (saved : Saved start destination original folder) : Unchanged start folder where
  find path := by
    by_cases same : path = destination
    · rw [same, saved.there, existing]
    · exact saved.elsewhere path same
  created := saved.created

theorem Preparing.unchanged (names : SidecarNames start destination part rollbackPath)
    (state : Preparing start destination part rollbackPath none folder) :
    Unchanged start folder where
  find path := by
    by_cases same : path = destination
    · rw [same, state.there]
    · by_cases isPart : path = part
      · rw [isPart, state.sidecar, names.partFresh]
      · by_cases isRollback : path = rollbackPath
        · rw [isRollback, state.aside, names.rollbackFresh]
        · exact state.elsewhere path same isPart isRollback
  created := state.created

/-- An original that was moved gets its name back, or stays under the name of the rollback file. -/
theorem meets_restoreOriginal_some [BackupBytes Bytes]
    (names : SidecarNames start destination part rollbackPath)
    (among : rollbackPath ∈ rollbacks) {original : Entry Bytes}
    (existing : start.find destination = some original) (ours : Entry Bytes)
    (expected : Nat × String) :
    Meets (backupSetting destination (start.find destination))
      (fun folder => MovedAside start destination part rollbackPath none folder ∨
        Promoted start destination part rollbackPath ours none folder)
      (restoreOriginal destination rollbackPath (some expected))
      (SafelyStopped start destination rollbacks bytes) (fun _ => Unchanged start)
      (RollbackFailed start destination rollbacks) := by
  have lasting : Lasts start destination rollbacks bytes (fun folder =>
      MovedAside start destination part rollbackPath none folder ∨
        Promoted start destination part rollbackPath ours none folder) :=
    (lasting_movedAside names among).or (lasting_promoted among)
  have kept : ∀ folder, MovedAside start destination part rollbackPath none folder ∨
      Promoted start destination part rollbackPath ours none folder →
      RollbackFailed start destination rollbacks .rollbackFailure folder :=
    fun folder state => ⟨rfl, state.elim (·.kept among) (·.kept among)⟩
  have linked : Lasts start destination rollbacks bytes
      (Promoted start destination part rollbackPath original none) := lasting_promoted among
  have links : ∀ folder entry, (MovedAside start destination part rollbackPath none folder ∨
      Promoted start destination part rollbackPath ours none folder) →
      folder.files.find rollbackPath = some entry → folder.files.find destination = none →
      Promoted start destination part rollbackPath original none
        (folder.withFiles (folder.files.put destination entry)) := by
    rintro folder entry (state | state) here free
    · rw [state.aside, existing] at here
      obtain rfl := Option.some.inj here
      exact state.publish names free
    · rw [state.there] at free
      cases free
  refine meets_compared lasting kept ?_
  refine meets_required (meets_publishNoClobber lasting links) (fun _ => kept) fun _ => ?_
  refine meets_required (meets_syncParent linked) (fun _ _ state => ⟨rfl, state.kept among⟩)
    fun _ => ?_
  refine meets_compared linked (fun _ state => ⟨rfl, state.kept among⟩) ?_
  refine meets_required (meets_removeFileIfPresent linked
    (fun folder state absent => (state.saved names absent).unchanged existing)
    fun folder state => (state.dropRollback names).unchanged existing)
    (fun _ _ state => ⟨rfl, state.kept among⟩) fun _ => ?_
  exact meets_requiredLast (meets_syncParent lasting_unchanged) fun _ _ state => ⟨rfl, state.kept⟩

/-- Without an original that was moved there is only a name to remove that is not there. -/
theorem meets_restoreOriginal_none [BackupBytes Bytes]
    {fails : BackupSaveError → BackupFolder Bytes → Prop}
    (names : SidecarNames start destination part rollbackPath) :
    Meets (backupSetting destination (start.find destination)) (Unchanged start)
      (restoreOriginal destination rollbackPath none)
      (SafelyStopped start destination rollbacks bytes) (fun _ => Unchanged start) fails := by
  refine meets_andThen _ (meets_removeFileIfPresent lasting_unchanged
    (fun folder state _ => state) fun folder state => ⟨fun path => ?_, state.created⟩) fun _ =>
    meets_done fun _ state => answers_same state
  show (folder.files.remove rollbackPath).find path = start.find path
  by_cases same : path = rollbackPath
  · rw [same, Files.find_remove_self, names.rollbackFresh]
  · rw [Files.find_remove_of_ne _ same, state.find]

/-- Nothing is promoted any more, whether the part is left or not. -/
def LeftReady (start : Files Bytes) (destination part rollbackPath : Path) (ours : Entry Bytes)
    (folder : BackupFolder Bytes) : Prop :=
  Ready start destination part rollbackPath (some ours) folder ∨
    Ready start destination part rollbackPath none folder

/-- After what was promoted is taken back: it is gone, or its part was gone before. -/
def TakenBack (start : Files Bytes) (destination part rollbackPath : Path) (ours : Entry Bytes)
    (folder : BackupFolder Bytes) : Prop :=
  LeftReady start destination part rollbackPath ours folder ∨
    (start.find destination ≠ none ∧
      Promoted start destination part rollbackPath ours none folder)

theorem LeftPromoted.kept (among : rollbackPath ∈ rollbacks)
    (state : LeftPromoted start destination part rollbackPath ours folder) :
    OriginalKept start destination rollbacks folder :=
  state.elim (·.kept among) (·.2.kept among)

theorem LeftPromoted.there (state : LeftPromoted start destination part rollbackPath ours folder) :
    folder.files.find destination = some ours :=
  state.elim (·.there) (·.2.there)

theorem LeftPromoted.takeBack (names : SidecarNames start destination part rollbackPath)
    (state : LeftPromoted start destination part rollbackPath ours folder) :
    LeftReady start destination part rollbackPath ours
      (folder.withFiles (folder.files.remove destination)) :=
  state.imp (·.takeBack names) (·.2.takeBack names)

theorem Ready.kept (among : rollbackPath ∈ rollbacks)
    (state : Ready start destination part rollbackPath held folder) :
    OriginalKept start destination rollbacks folder :=
  state.elim (·.2.kept) (·.kept among)

theorem lasting_leftPromoted (among : rollbackPath ∈ rollbacks) :
    Lasts start destination rollbacks bytes
      (LeftPromoted start destination part rollbackPath ours) :=
  (lasting_promoted among).or ((lasting_promoted among).and _)

theorem lasting_leftReady (names : SidecarNames start destination part rollbackPath)
    (among : rollbackPath ∈ rollbacks) :
    Lasts start destination rollbacks bytes (LeftReady start destination part rollbackPath ours) :=
  (lasting_ready names among).or (lasting_ready names among)

/-- What was promoted is taken back only while it is the part itself. -/
theorem meets_takeBack [BackupBytes Bytes]
    (names : SidecarNames start destination part rollbackPath)
    (among : rollbackPath ∈ rollbacks) :
    Meets (backupSetting destination (start.find destination))
      (LeftPromoted start destination part rollbackPath ours)
      (takeBack destination part) (SafelyStopped start destination rollbacks bytes)
      (fun _ => TakenBack start destination part rollbackPath ours)
      (RollbackFailed start destination rollbacks) := by
  have lasting : Lasts start destination rollbacks bytes
      (LeftPromoted start destination part rollbackPath ours) := lasting_leftPromoted among
  have kept : ∀ folder, LeftPromoted start destination part rollbackPath ours folder →
      RollbackFailed start destination rollbacks .rollbackFailure folder :=
    fun folder state => ⟨rfl, state.kept among⟩
  have present : ∀ folder, LeftPromoted start destination part rollbackPath ours folder →
      folder.files.find destination ≠ none := fun folder state missing => by
    rw [state.there] at missing
    cases missing
  have partMissing : ∀ folder, LeftPromoted start destination part rollbackPath ours folder →
      folder.files.find part = none →
      TakenBack start destination part rollbackPath ours folder := by
    rintro folder (state | state) missing
    · rw [state.sidecar] at missing
      cases missing
    · exact .inr state
  refine meets_andThen _ (meets_sameRegularFile lasting part destination partMissing
    fun folder state missing => absurd missing (present folder state)) fun result => ?_
  have failing : Meets (backupSetting destination (start.find destination))
      (LeftPromoted start destination part rollbackPath ours)
      (andThen (removeFileIfPresent part) fun _ =>
        (fail .rollbackFailure : Program (BackupFolder Bytes) BackupSaveError Unit))
      (SafelyStopped start destination rollbacks bytes)
      (fun _ => TakenBack start destination part rollbackPath ours)
      (RollbackFailed start destination rollbacks) := by
    refine meets_andThen _ (meets_removeFileIfPresent lasting
      (fun folder state _ => (kept folder state).2) fun folder state => ?_) fun result => ?_
    · rcases state with state | state
      · exact (state.dropPart names).kept among
      · exact (state.2.dropPart names).kept among
    · cases result with
      | ok _ => exact meets_fail fun _ state => ⟨rfl, state⟩
      | error _ => exact meets_fail fun folder state => kept folder state
  rcases result with (_ | _ | _) | same
  · exact meets_done fun _ state => state
  · exact failing
  · exact failing
  · cases same with
    | false => exact failing
    | true =>
      refine meets_required (meets_removeFileIfPresent lasting
        (fun folder state missing => absurd missing (present folder state))
        fun folder state => state.takeBack names) (fun _ => kept) fun _ => ?_
      refine (meets_requiredLast (meets_syncParent (lasting_leftReady names among))
        fun _ folder state => ⟨rfl, state.elim (·.kept among) (·.kept among)⟩).promising
        fun _ _ state => .inl state

/-- Without its part a save is moved aside or promoted. -/
theorem TakenBack.dropPart (names : SidecarNames start destination part rollbackPath)
    (state : TakenBack start destination part rollbackPath ours folder) :
    Ready start destination part rollbackPath none
        (folder.withFiles (folder.files.remove part)) ∨
      (start.find destination ≠ none ∧ Promoted start destination part rollbackPath ours none
        (folder.withFiles (folder.files.remove part))) := by
  rcases state with (ready | ready) | ⟨existed, state⟩
  · exact .inl (ready.imp (fun state => ⟨state.1, state.2.dropPart names⟩) (·.dropPart names))
  · exact .inl (ready.imp (fun state => ⟨state.1, state.2.dropPart names⟩) (·.dropPart names))
  · exact .inr ⟨existed, state.dropPart names⟩

theorem TakenBack.withoutPart (state : TakenBack start destination part rollbackPath ours folder)
    (missing : folder.files.find part = none) :
    Ready start destination part rollbackPath none folder ∨
      (start.find destination ≠ none ∧
        Promoted start destination part rollbackPath ours none folder) := by
  rcases state with (ready | ready) | state
  · rcases ready with ⟨-, state⟩ | state
    · rw [state.sidecar] at missing
      cases missing
    · rw [state.sidecar] at missing
      cases missing
  · exact .inl ready
  · exact .inr state

theorem TakenBack.kept (among : rollbackPath ∈ rollbacks)
    (state : TakenBack start destination part rollbackPath ours folder) :
    OriginalKept start destination rollbacks folder := by
  rcases state with (ready | ready) | ⟨-, state⟩
  · exact ready.kept among
  · exact ready.kept among
  · exact state.kept among

/-- Before anything was moved the part is all that is undone. -/
theorem meets_rollback_preparing [BackupBytes Bytes]
    (names : SidecarNames start destination part rollbackPath) :
    Meets (backupSetting destination (start.find destination))
      (fun folder => ∃ held, Preparing start destination part rollbackPath held folder)
      (rollback destination part rollbackPath none false)
      (SafelyStopped start destination rollbacks bytes) (fun _ => Unchanged start)
      (RollbackFailed start destination rollbacks) := by
  refine meets_exists fun held => ?_
  refine meets_required (meets_removeFileIfPresent lasting_preparing
    (fun folder state missing => ?_) fun folder state => (state.dropPart names).unchanged names)
    (fun _ _ state => ⟨rfl, state.kept⟩) fun _ => meets_restoreOriginal_none names
  rw [state.sidecar] at missing
  exact Preparing.unchanged names (missing ▸ state)

/-- The original of a destination that holds something. -/
theorem exists_original (same : original.isSome = (start.find destination).isSome)
    (existed : start.find destination ≠ none) :
    ∃ expected entry, original = some expected ∧ start.find destination = some entry := by
  obtain ⟨entry, found⟩ := Option.ne_none_iff_exists'.mp existed
  rw [found] at same
  obtain ⟨expected, known⟩ := Option.isSome_iff_exists.mp same
  exact ⟨expected, entry, known, found⟩

/-- After the original was moved the part is removed and the original gets its name back. -/
theorem meets_rollback_movedAside [BackupBytes Bytes]
    (names : SidecarNames start destination part rollbackPath)
    (among : rollbackPath ∈ rollbacks) (same : original.isSome = (start.find destination).isSome) :
    Meets (backupSetting destination (start.find destination))
      (MovedAside start destination part rollbackPath held)
      (rollback destination part rollbackPath original false)
      (SafelyStopped start destination rollbacks bytes) (fun _ => Unchanged start)
      (RollbackFailed start destination rollbacks) := by
  have lasting : Lasts start destination rollbacks bytes
      (MovedAside start destination part rollbackPath held) := lasting_movedAside names among
  refine meets_required (meets_removeFileIfPresent lasting (fun folder state missing => ?_)
    fun folder state => state.dropPart names) (fun _ _ state => ⟨rfl, state.kept among⟩) fun _ => ?_
  · rw [state.sidecar] at missing
    exact missing ▸ state
  by_cases existed : start.find destination = none
  · intro hazards admitted clock folder state
    exact absurd existed state.existed
  · obtain ⟨expected, entry, rfl, existing⟩ := exists_original same existed
    exact (meets_restoreOriginal_some names among existing entry expected).asking
      fun _ state => .inl state

/-- After the file was promoted it is taken back first. -/
theorem meets_rollback_promoted [BackupBytes Bytes]
    (names : SidecarNames start destination part rollbackPath)
    (among : rollbackPath ∈ rollbacks) {moved : Bool}
    (same : original.isSome = (start.find destination).isSome)
    (known : moved = (start.find destination).isSome) :
    Meets (backupSetting destination (start.find destination))
      (LeftPromoted start destination part rollbackPath ours)
      (rollback destination part rollbackPath (if moved then original else none) true)
      (SafelyStopped start destination rollbacks bytes) (fun _ => Unchanged start)
      (RollbackFailed start destination rollbacks) := by
  have takenBack : Lasts start destination rollbacks bytes
      (TakenBack start destination part rollbackPath ours) :=
    (lasting_leftReady names among).or ((lasting_promoted among).and _)
  refine meets_andThen _ (meets_takeBack names among) fun _ => ?_
  refine meets_required (meets_removeFileIfPresent takenBack
    (fun folder state missing => state.withoutPart missing) fun folder state => state.dropPart names)
    (fun _ _ state => ⟨rfl, state.kept among⟩) fun _ => ?_
  cases moved with
  | false =>
    have absent : start.find destination = none := by
      rw [← Option.isNone_iff_eq_none, ← Option.not_isSome, ← known]
      rfl
    refine (meets_restoreOriginal_none names).asking fun folder state => ?_
    rcases state with (⟨-, state⟩ | state) | ⟨existed, -⟩
    · exact state.unchanged names
    · exact absurd absent state.existed
    · exact absurd absent existed
  | true =>
    have existed : start.find destination ≠ none := Option.isSome_iff_ne_none.mp known.symm
    obtain ⟨expected, entry, rfl, existing⟩ := exists_original same existed
    refine (meets_restoreOriginal_some names among existing ours expected).asking
      fun folder state => ?_
    rcases state with (⟨absent, -⟩ | state) | ⟨-, state⟩
    · exact absurd absent existed
    · exact .inl state
    · exact .inr state

/-- A rollback undoes everything, or keeps the original. -/
theorem meets_rollback [BackupBytes Bytes]
    (names : SidecarNames start destination part rollbackPath)
    (among : rollbackPath ∈ rollbacks)
    (same : original.isSome = (start.find destination).isSome) (failed : OperationFailure) :
    Meets (backupSetting destination (start.find destination))
      (OperationFailed start destination part rollbackPath failed)
      (rollback destination part rollbackPath
        (if failed.originalMoved then original else none) failed.promoted)
      (SafelyStopped start destination rollbacks bytes)
      (fun _ folder => failed.error = .ioFailure ∧ Unchanged start folder)
      (RollbackFailed start destination rollbacks) := by
  refine meets_given fun ioFailure => ?_
  have undone : Meets (backupSetting destination (start.find destination))
      (fun folder => match failed.originalMoved, failed.promoted with
        | false, false => ∃ held, Preparing start destination part rollbackPath held folder
        | true, false => ∃ held, MovedAside start destination part rollbackPath held folder
        | moved, true => moved = (start.find destination).isSome ∧
            ∃ ours, LeftPromoted start destination part rollbackPath ours folder)
      (rollback destination part rollbackPath
        (if failed.originalMoved then original else none) failed.promoted)
      (SafelyStopped start destination rollbacks bytes) (fun _ => Unchanged start)
      (RollbackFailed start destination rollbacks) := by
    obtain ⟨error, moved, promoted⟩ := failed
    cases promoted with
    | false =>
      cases moved with
      | false => exact meets_rollback_preparing names
      | true => exact meets_exists fun held => meets_rollback_movedAside names among same
    | true =>
      cases moved with
      | false => exact meets_given fun known => meets_exists fun ours =>
          meets_rollback_promoted names among same known
      | true => exact meets_given fun known => meets_exists fun ours =>
          meets_rollback_promoted names among same known
  exact undone.promising fun _ _ state => ⟨ioFailure, state⟩

/-! ### The save -/

/-- The sidecar names are random: none of them is the destination, and no rollback file is there. -/
structure FreshlyDrawn (start : Files Bytes) (destination : Path) (drawn : List (Path × Path)) :
    Prop where
  partOther : ∀ pair ∈ drawn, pair.1 ≠ destination
  rollbackOther : ∀ pair ∈ drawn, pair.2 ≠ destination
  apart : ∀ pair ∈ drawn, pair.1 ≠ pair.2
  rollbackFresh : ∀ pair ∈ drawn, start.find pair.2 = none

theorem FreshlyDrawn.names {drawn : List (Path × Path)} {pair : Path × Path}
    (fresh : FreshlyDrawn start destination drawn) (member : pair ∈ drawn)
    (partFresh : start.find pair.1 = none) :
    SidecarNames start destination pair.1 pair.2 where
  partOther := fresh.partOther pair member
  rollbackOther := fresh.rollbackOther pair member
  apart := fresh.apart pair member
  partFresh := partFresh
  rollbackFresh := fresh.rollbackFresh pair member

/-- An original is read exactly when there is one. -/
theorem meets_readOriginal [BackupBytes Bytes] :
    Meets (backupSetting destination (start.find destination)) (Unchanged start)
      (readOriginal destination) (SafelyStopped start destination rollbacks bytes)
      (fun original folder => original.isSome = (start.find destination).isSome ∧
        Unchanged start folder)
      (fun error folder => error = .destinationDenied ∧ Unchanged start folder) := by
  have unchanged : Lasts start destination rollbacks bytes (Unchanged start) := lasting_unchanged
  unfold readOriginal
  refine meets_andThen _ (meets_symlinkMetadata unchanged destination) fun result => ?_
  rcases result with (_ | _ | _) | entry
  · exact meets_done fun _ state => ⟨by rw [← state.1.find, state.2 rfl]; rfl, state.1⟩
  · exact meets_fail fun _ state => ⟨rfl, state.1⟩
  · exact meets_fail fun _ state => ⟨rfl, state.1⟩
  · have lasting : Lasts start destination rollbacks bytes
        (fun folder => start.find destination = some entry ∧ Unchanged start folder) :=
      unchanged.and _
    refine (meets_required (meets_fingerprint lasting destination)
      (fun _ _ state => ⟨rfl, state.2⟩) fun found => ?_).asking
      fun folder state => ⟨by rw [← state.1.find, state.2], state.1⟩
    exact meets_done fun _ state => ⟨by rw [state.1]; rfl, state.2⟩

/-- A part is created under a name that was free, and nothing else is. -/
theorem meets_createSidecar [BackupBytes Bytes]
    {fails : BackupSaveError → BackupFolder Bytes → Prop} {drawn : List (Path × Path)}
    (fresh : FreshlyDrawn start destination drawn) :
    ∀ rest, rest <:+ drawn →
      Meets (backupSetting destination (start.find destination)) (Unchanged start)
        (createSidecar rest) (SafelyStopped start destination rollbacks bytes)
        (Answers (fun pair folder => (pair ∈ drawn ∧ start.find pair.1 = none) ∧
          ∃ inode, Preparing start destination pair.1 pair.2
            (some (.file inode BackupBytes.empty)) folder) fun _ => Unchanged start) fails := by
  intro rest
  induction rest with
  | nil => exact fun _ => meets_done fun _ state => state
  | cons pair rest inductionHypothesis =>
    intro among
    obtain ⟨part, rollback⟩ := pair
    have member : (part, rollback) ∈ drawn := among.subset List.mem_cons_self
    have later := inductionHypothesis ((List.suffix_cons _ _).trans among)
    have unchanged : Lasts start destination rollbacks bytes (Unchanged start) := lasting_unchanged
    refine meets_andThen _ (meets_symlinkMetadata unchanged rollback) fun result => ?_
    cases result with
    | ok _ => exact later.asking fun _ state => state.1
    | error _ =>
      have created : Meets (backupSetting destination (start.find destination)) (Unchanged start)
          (createNew part) (SafelyStopped start destination rollbacks bytes)
          (Answers (fun _ folder => start.find part = none ∧ ∃ inode,
            Preparing start destination part rollback (some (.file inode BackupBytes.empty)) folder)
            fun _ => Unchanged start) fails := by
        refine meets_systemCall unchanged (fun _ state => state) ?_ fun _ _ state _ => state
        intro folder value next state outcome
        split at outcome
        · cases outcome
        · rename_i free
          obtain ⟨-, rfl⟩ := Prod.mk.inj (Except.ok.inj outcome)
          have partFresh : start.find part = none := (state.find part).symm.trans free
          have names := fresh.names member partFresh
          exact ⟨partFresh, _, {
            elsewhere := fun path _ notPart _ =>
              (Files.find_put_of_ne _ notPart _).trans (state.find path)
            there := (Files.find_put_of_ne _ names.partOther.symm _).trans (state.find _)
            aside := (Files.find_put_of_ne _ names.apart.symm _).trans
              ((state.find _).trans names.rollbackFresh)
            sidecar := Files.find_put_self _ _ _
            created := state.created }⟩
      refine meets_andThen _ (created.asking fun _ state => state.1) fun result => ?_
      rcases result with (_ | _ | _) | _
      · exact meets_done fun _ state => state
      · exact later
      · exact meets_done fun _ state => state
      · exact meets_done fun _ state => ⟨⟨member, state.1⟩, state.2⟩

/-- Whichever calls fail and whatever another process creates: a save that succeeds leaves the
verified bytes and no sidecar, one that fails otherwise than in its rollback leaves everything as it
was, and no failure loses the original or what the other process created. -/
theorem saveVerifiedBackupBytes_safe [BackupBytes Bytes] (start : Files Bytes) (destination : Path)
    (drawn : List (Path × Path)) (bytes : Bytes) (expectedSha256 : String)
    (fresh : FreshlyDrawn start destination drawn) :
    Meets (backupSetting destination (start.find destination))
      (fun folder => folder.files = start ∧ folder.created = [])
      (saveVerifiedBackupBytesWithHooks destination drawn bytes expectedSha256)
      (SafelyStopped start destination (drawn.map Prod.snd) bytes)
      (fun _ folder => FileBytes.sha256 bytes = expectedSha256 ∧
        ∃ inode, Saved start destination (.file inode bytes) folder)
      (fun error folder => (error ≠ .rollbackFailure → Unchanged start folder) ∧
        OriginalKept start destination (drawn.map Prod.snd) folder) := by
  have unchanged : Lasts start destination (drawn.map Prod.snd) bytes (Unchanged start) :=
    lasting_unchanged
  have failed : ∀ error : BackupSaveError, ∀ folder, Unchanged start folder →
      (error ≠ .rollbackFailure → Unchanged start folder) ∧
        OriginalKept start destination (drawn.map Prod.snd) folder :=
    fun _ _ state => ⟨fun _ => state, state.kept⟩
  have begun : ∀ folder : BackupFolder Bytes, folder.files = start ∧ folder.created = [] →
      Unchanged start folder := fun folder state => ⟨fun path => by rw [state.1], state.2⟩
  refine Meets.asking ?_ begun
  refine meets_andThen _ (meets_refuseWhen fun folder state _ => failed _ folder state) fun _ => ?_
  refine Meets.asking (meets_given fun verified => ?_) fun _ state => state.symm
  have checked : FileBytes.sha256 bytes = expectedSha256 := not_not.mp verified
  refine meets_required (meets_syncParent unchanged) (fun _ folder state => failed _ folder state)
    fun _ => ?_
  refine meets_andThen _ ((meets_readOriginal).mono (fun _ state => state)
    (fun _ stopped => stopped) (fun _ _ state => state) fun _ folder state =>
      failed _ folder state.2) fun original => ?_
  refine meets_given fun same => ?_
  refine meets_required (meets_createSidecar fresh drawn (List.suffix_refl _))
    (fun _ folder state => failed _ folder state) fun pair => ?_
  obtain ⟨part, rollbackPath⟩ := pair
  refine meets_given fun chosen => meets_exists fun inode => ?_
  have names := fresh.names chosen.1 chosen.2
  have among : rollbackPath ∈ drawn.map Prod.snd := List.mem_map_of_mem chosen.1
  have operated : Meets (backupSetting destination (start.find destination))
      (Preparing start destination part rollbackPath (some (.file inode BackupBytes.empty)))
      (attempt (saveOperation destination part rollbackPath bytes expectedSha256 original) :
        Program (BackupFolder Bytes) BackupSaveError (Except OperationFailure Unit))
      (SafelyStopped start destination (drawn.map Prod.snd) bytes)
      (OperationEnded start destination part rollbackPath (.file inode bytes))
      (fun error folder => (error ≠ .rollbackFailure → Unchanged start folder) ∧
        OriginalKept start destination (drawn.map Prod.snd) folder) :=
    meets_attempt (meets_saveOperation names among expectedSha256 same)
  refine meets_andThen _ operated fun result => ?_
  cases result with
  | ok _ => exact meets_done fun _ state => ⟨checked, inode, state⟩
  | error failure =>
    have undone : Meets (backupSetting destination (start.find destination))
        (OperationFailed start destination part rollbackPath failure)
        (rollback destination part rollbackPath
          (if failure.originalMoved then original else none) failure.promoted)
        (SafelyStopped start destination (drawn.map Prod.snd) bytes)
        (fun _ folder => failure.error = .ioFailure ∧ Unchanged start folder)
        (fun error folder => (error ≠ .rollbackFailure → Unchanged start folder) ∧
          OriginalKept start destination (drawn.map Prod.snd) folder) :=
      (meets_rollback names among same failure).mono (fun _ state => state)
        (fun _ stopped => stopped) (fun _ _ state => state)
        fun _ _ state => ⟨fun other => absurd state.1 other, state.2⟩
    exact meets_andThen _ undone fun _ => meets_fail fun folder state => failed _ folder state.2

/-- The content of an empty file and of two backups. -/
inductive SampleBackup
  | nothing
  | older
  | newer

instance : BackupBytes SampleBackup where
  size
    | .nothing => 0
    | .older | .newer => 12
  sha256
    | .nothing => "e3b0c44298fc1c149afbf4c8996fb92427ae41e4649b934ca495991b7852b855"
    | .older => "6e0291c7c8cbece0e66b325b14a4330a3a7b68e6fa4f76204702402d91f6f4bf"
    | .newer => "3544686047fd80f5718257e5f79a779477bfa04ccab4d2c3cccf564b112a608f"
  empty := .nothing

/-- A directory with a backup. -/
def olderBackup : Files SampleBackup where
  entries := [(["careeros.zip"], .file 1 .older)]
  distinct := by decide

theorem saveVerifiedBackupBytes_safe_replacing :
    Meets (backupSetting ["careeros.zip"] (some (.file 1 .older)))
      (fun folder => folder.files = olderBackup ∧ folder.created = [])
      (saveVerifiedBackupBytesWithHooks ["careeros.zip"]
        [([".careeros-0a.part"], [".careeros-0b.rollback"])] SampleBackup.newer
        (FileBytes.sha256 SampleBackup.newer))
      (SafelyStopped olderBackup ["careeros.zip"] [[".careeros-0b.rollback"]] .newer)
      (fun _ folder =>
        FileBytes.sha256 SampleBackup.newer = FileBytes.sha256 SampleBackup.newer ∧
          ∃ inode, Saved olderBackup ["careeros.zip"] (.file inode .newer) folder)
      (fun error folder => (error ≠ .rollbackFailure → Unchanged olderBackup folder) ∧
        OriginalKept olderBackup ["careeros.zip"] [[".careeros-0b.rollback"]] folder) :=
  saveVerifiedBackupBytes_safe olderBackup ["careeros.zip"]
    [([".careeros-0a.part"], [".careeros-0b.rollback"])] .newer _ {
      partOther := List.forall_mem_singleton.mpr (by decide)
      rollbackOther := List.forall_mem_singleton.mpr (by decide)
      apart := List.forall_mem_singleton.mpr (by decide)
      rollbackFresh := List.forall_mem_singleton.mpr rfl }

end CareerOS
