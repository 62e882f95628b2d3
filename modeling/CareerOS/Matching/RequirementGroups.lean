/-
This file is how the required values of a text are put into groups, each a
requirement that one of its values meets. A loop over the clauses of the text holds
the groups that are closed and the values of the one that is open. An adversative
clause, a clause that requires nothing and an additive connector close the open
group; a list goes on with it, and whether the values of a list are alternatives is
known only when one of them is joined by an alternative.
-/

import CareerOS.Library.Distinct
import CareerOS.Library.Text

namespace CareerOS

/-! ### Clauses -/

/-- `_ConnectorKind`. -/
inductive ConnectorKind
  | start
  | list
  | additive
  | adversative
  | alternative
  | scopedAbsence
  deriving DecidableEq

/-- `_MarkerDirection`. -/
inductive MarkerDirection
  | none
  | forward
  | backward
  | both
  | local
  deriving DecidableEq

/-- `_ClauseSegment`. -/
structure ClauseSegment where
  text : String
  connector : ConnectorKind
  connectorText : String := ""
  explicitStatus : Option String := .none
  inheritedStatus : Option String := .none
  markerDirection : MarkerDirection := .none
  markerStart : Option Nat := .none
  markerEnd : Option Nat := .none
  absenceScope : Bool := false
  deriving DecidableEq

/-- `_ClauseSegment.status`. -/
def ClauseSegment.status (segment : ClauseSegment) : String :=
  if segment.absenceScope then "exclusion"
  else Text.orElse (segment.explicitStatus.getD "")
    (Text.orElse (segment.inheritedStatus.getD "") "present")

/-- Is the clause required, and outside of an absence? -/
def ClauseSegment.Kept (clause : ClauseSegment) : Prop :=
  clause.status = "required" ∧ clause.absenceScope = false

instance (clause : ClauseSegment) : Decidable clause.Kept := inferInstanceAs (Decidable (_ ∧ _))

/-! ### The loop -/

section

variable (valuesFor : ClauseSegment → List String)

/-- The values of a clause in order, each with the connector it is joined by: that of the clause
for the first one. -/
def joinedValues (clause : ClauseSegment) : List (ConnectorKind × String) :=
  ((valuesFor clause).dedup.insertionSort (· ≤ ·)).zipIdx.map fun (value, valueIndex) =>
    (if valueIndex = 0 then clause.connector else .additive, value)

/-- The loop: the groups that are closed, the values of the open one, and whether one of them was
joined as an alternative. -/
structure GroupLoop where
  localGroups : List (List String)
  chunk : List String
  chunkHasAlternative : Bool

namespace GroupLoop

/-- The loop before its first clause. -/
def start : GroupLoop := ⟨[], [], false⟩

/-- `flush_chunk`. -/
def flushChunk (loop : GroupLoop) : GroupLoop :=
  if loop.chunk = [] then loop
  else
    let unique := Distinct.firsts loop.chunk
    let groups :=
      if loop.chunkHasAlternative then [unique.insertionSort (· ≤ ·)]
      else unique.map fun value => [value]
    ⟨loop.localGroups ++ groups, [], false⟩

/-- One turn of the inner loop. -/
def join (loop : GroupLoop) (joined : ConnectorKind × String) : GroupLoop :=
  if loop.chunk = [] then { loop with chunk := [joined.2] }
  else
    match joined.1 with
    | .alternative => { loop with chunk := loop.chunk ++ [joined.2], chunkHasAlternative := true }
    | .list => { loop with chunk := loop.chunk ++ [joined.2] }
    | _ => { loop.flushChunk with chunk := [joined.2] }

/-- One turn of the outer loop. -/
def take (loop : GroupLoop) (clause : ClauseSegment) : GroupLoop :=
  if clause.Kept then (joinedValues valuesFor clause).foldl join loop else loop.flushChunk

end GroupLoop

/-- The groups of the clauses between two boundaries. -/
def localGroups (clauses : List ClauseSegment) : List (List String) :=
  (clauses.foldl (GroupLoop.take valuesFor) .start).flushChunk.localGroups

/-- The slices of the clauses between the boundaries, the indices after the first one at which a
clause is adversative. -/
def adversativeSlices (clauses : List ClauseSegment) : List (List ClauseSegment) :=
  clauses.splitBy fun _ clause => clause.connector ≠ .adversative

/-- `_required_value_groups`. -/
def requiredValueGroups (clauses : List ClauseSegment) : List (List String) :=
  (adversativeSlices clauses).flatMap fun slice =>
    (localGroups valuesFor slice).insertionSort (· ≤ ·)

/-! ### What the groups hold -/

variable {value : String}

theorem mem_joinedValues {clause : ClauseSegment} :
    (∃ joined ∈ joinedValues valuesFor clause, joined.2 = value) ↔ value ∈ valuesFor clause := by
  have values : (joinedValues valuesFor clause).map Prod.snd =
      (valuesFor clause).dedup.insertionSort (· ≤ ·) := by
    rw [joinedValues, List.map_map]
    exact List.zipIdx_map_fst 0 _
  rw [← List.mem_dedup, ← List.mem_insertionSort (· ≤ ·), ← values, List.mem_map]

variable {clauses : List ClauseSegment}

namespace GroupLoop

/-- Does the loop hold the value, in a group or in the open one? -/
def Holds (loop : GroupLoop) (value : String) : Prop :=
  (∃ group ∈ loop.localGroups, value ∈ group) ∨ value ∈ loop.chunk

variable {loop : GroupLoop}

theorem holds_flushChunk :
    (∃ group ∈ loop.flushChunk.localGroups, value ∈ group) ↔ loop.Holds value := by
  unfold flushChunk Holds
  split
  · rename_i closed
    rw [closed]
    exact (or_iff_left List.not_mem_nil).symm
  · simp only [List.mem_append, or_and_right, exists_or]
    refine or_congr_right ?_
    split
    · simp
    · simp

theorem chunk_flushChunk (loop : GroupLoop) : loop.flushChunk.chunk = [] := by
  unfold flushChunk
  split
  · assumption
  · rfl

theorem holds_join {joined : ConnectorKind × String} :
    (loop.join joined).Holds value ↔ loop.Holds value ∨ joined.2 = value := by
  have flushed : ({ loop.flushChunk with chunk := [joined.2] } : GroupLoop).Holds value ↔
      loop.Holds value ∨ joined.2 = value :=
    or_congr holds_flushChunk (List.mem_singleton.trans eq_comm)
  unfold join
  split
  · rename_i closed
    simp [Holds, closed, eq_comm]
  · split
    · simp [Holds, or_assoc, eq_comm]
    · simp [Holds, or_assoc, eq_comm]
    · exact flushed

theorem holds_foldl_join {joined : List (ConnectorKind × String)}
    : (joined.foldl join loop).Holds value ↔
      loop.Holds value ∨ ∃ one ∈ joined, one.2 = value := by
  induction joined generalizing loop with
  | nil => simp
  | cons first rest inductionHypothesis =>
    rw [List.foldl_cons, inductionHypothesis, holds_join, or_assoc]
    simp only [List.mem_cons, or_and_right, exists_or, exists_eq_left]

theorem holds_take {clause : ClauseSegment} :
    (loop.take valuesFor clause).Holds value ↔
      loop.Holds value ∨ clause.Kept ∧ value ∈ valuesFor clause := by
  unfold take
  split
  · rename_i kept
    rw [holds_foldl_join, mem_joinedValues, and_iff_right kept]
  · rename_i skipped
    rw [or_iff_left fun both => skipped both.1, Holds, chunk_flushChunk, holds_flushChunk,
      or_iff_left List.not_mem_nil]

theorem holds_foldl_take :
    (clauses.foldl (take valuesFor) loop).Holds value ↔
      loop.Holds value ∨ ∃ clause ∈ clauses, clause.Kept ∧ value ∈ valuesFor clause := by
  induction clauses generalizing loop with
  | nil => simp
  | cons first rest inductionHypothesis =>
    rw [List.foldl_cons, inductionHypothesis, holds_take, or_assoc]
    simp only [List.mem_cons, or_and_right, exists_or, exists_eq_left]

end GroupLoop

theorem mem_localGroups :
    (∃ group ∈ localGroups valuesFor clauses, value ∈ group) ↔
      ∃ clause ∈ clauses, clause.Kept ∧ value ∈ valuesFor clause := by
  rw [localGroups, GroupLoop.holds_flushChunk, GroupLoop.holds_foldl_take]
  simp [GroupLoop.Holds, GroupLoop.start]

/-! ### Where a group comes from -/

/-- A group of values that a run of required clauses joins one after the other. -/
structure GroupRun (clauses run : List ClauseSegment) (joined : List (ConnectorKind × String))
    (group : List String) : Prop where
  together : run <:+: clauses
  kept : ∀ clause ∈ run, clause.Kept
  between : joined <:+: run.flatMap (joinedValues valuesFor)
  values : ∀ value, value ∈ group ↔ ∃ one ∈ joined, one.2 = value
  alternative : 1 < group.length → ∃ one ∈ joined.tail, one.1 = .alternative

/-- A group of the clauses. -/
def GroupOf (clauses : List ClauseSegment) (group : List String) : Prop :=
  ∃ run joined, GroupRun valuesFor clauses run joined group

variable {valuesFor}

theorem GroupOf.mono {clauses others : List ClauseSegment} {group : List String}
    (inside : GroupOf valuesFor clauses group) (more : clauses <:+: others) :
    GroupOf valuesFor others group := by
  obtain ⟨run, joined, from_⟩ := inside
  exact ⟨run, joined, { from_ with together := from_.together.trans more }⟩

variable (valuesFor)

/-- The loop after some clauses: its groups are groups of these, and the open one is the end of the
values that a run of the last clauses has joined. -/
structure GroupLoop.Sound (clauses run : List ClauseSegment)
    (seen : List (ConnectorKind × String)) (loop : GroupLoop) : Prop where
  closed : ∀ group ∈ loop.localGroups, GroupOf valuesFor clauses group
  together : run <:+ clauses
  kept : ∀ clause ∈ run, clause.Kept
  opened : ∃ joined, joined <:+ seen ∧ joined.map Prod.snd = loop.chunk ∧
    (loop.chunkHasAlternative = true → ∃ one ∈ joined.tail, one.1 = .alternative)

namespace GroupLoop

variable {valuesFor} {clauses run : List ClauseSegment} {seen : List (ConnectorKind × String)}
  {loop : GroupLoop}

theorem Sound.no_alternative (sound : loop.Sound valuesFor clauses run seen) :
    loop.flushChunk.chunkHasAlternative = false := by
  unfold flushChunk
  split
  · rename_i closed
    obtain ⟨joined, -, values, alternative⟩ := sound.opened
    obtain rfl := List.map_eq_nil_iff.mp (values.trans closed)
    by_contra joined
    obtain ⟨one, member, -⟩ := alternative (Bool.eq_true_of_not_eq_false joined)
    cases member
  · rfl

/-- Closing the open group makes a group of the clauses. -/
theorem Sound.closed_flushChunk (sound : loop.Sound valuesFor clauses run seen)
    (before : seen <+: run.flatMap (joinedValues valuesFor)) :
    ∀ group ∈ loop.flushChunk.localGroups, GroupOf valuesFor clauses group := by
  obtain ⟨joined, last, values, alternative⟩ := sound.opened
  have between := last.isInfix.trans before.isInfix
  have mem_chunk (value : String) :
      value ∈ Distinct.firsts loop.chunk ↔ ∃ one ∈ joined, one.2 = value := by
    rw [Distinct.mem_firsts, ← values, List.mem_map]
  intro group member
  unfold flushChunk at member
  split at member
  · exact sound.closed group member
  rcases List.mem_append.mp member with former | latest
  · exact sound.closed group former
  split at latest
  · rename_i flag
    obtain rfl := List.mem_singleton.mp latest
    exact ⟨run, joined, sound.together.isInfix, sound.kept, between,
      fun value => (List.mem_insertionSort _).trans (mem_chunk value), fun _ => alternative flag⟩
  · obtain ⟨value, inside, rfl⟩ := List.mem_map.mp latest
    obtain ⟨one, among, rfl⟩ := (mem_chunk value).mp inside
    obtain ⟨left, right, rfl⟩ := List.append_of_mem among
    refine ⟨run, [one], sound.together.isInfix, sound.kept,
      List.IsInfix.trans ⟨left, right, by simp⟩ between, fun other => ?_,
      fun several => absurd several (lt_irrefl 1)⟩
    simp [eq_comm]

theorem Sound.join (sound : loop.Sound valuesFor clauses run seen) (one : ConnectorKind × String)
    (before : seen <+: run.flatMap (joinedValues valuesFor)) :
    (loop.join one).Sound valuesFor clauses run (seen ++ [one]) := by
  obtain ⟨joined, last, values, alternative⟩ := sound.opened
  have alone : [one] <:+ seen ++ [one] := List.suffix_append _ _
  have more : joined ++ [one] <:+ seen ++ [one] := (List.suffix_append_inj_of_length_eq rfl).mpr
    ⟨last, rfl⟩
  unfold GroupLoop.join
  split
  · rename_i closed
    obtain rfl := List.map_eq_nil_iff.mp (values.trans closed)
    exact { sound with opened := ⟨[one], alone, rfl, fun flag => by
      obtain ⟨_, member, -⟩ := alternative flag
      cases member⟩ }
  · rename_i chunk
    have some : joined ≠ [] := by
      rintro rfl
      exact chunk values.symm
    have tail : (joined ++ [one]).tail = joined.tail ++ [one] := List.tail_append_of_ne_nil some
    have chunks : (joined ++ [one]).map Prod.snd = loop.chunk ++ [one.2] := by
      rw [List.map_append, values]
      rfl
    split
    · rename_i connector
      exact { sound with opened := ⟨joined ++ [one], more, chunks, fun _ =>
        ⟨one, tail ▸ List.mem_append_right _ List.mem_cons_self, connector⟩⟩ }
    · exact { sound with opened := ⟨joined ++ [one], more, chunks, fun flag => by
        obtain ⟨other, member, connector⟩ := alternative flag
        exact ⟨other, tail ▸ List.mem_append_left _ member, connector⟩⟩ }
    · refine { sound with
        closed := sound.closed_flushChunk before
        opened := ⟨[one], alone, rfl, fun flag => ?_⟩ }
      exact absurd (sound.no_alternative.symm.trans flag) (by decide)

theorem Sound.foldl_join {joined : List (ConnectorKind × String)}
    (sound : loop.Sound valuesFor clauses run seen)
    (before : seen ++ joined <+: run.flatMap (joinedValues valuesFor)) :
    (joined.foldl GroupLoop.join loop).Sound valuesFor clauses run (seen ++ joined) := by
  induction joined generalizing loop seen with
  | nil => rwa [List.append_nil]
  | cons one rest inductionHypothesis =>
    have next := sound.join one ((List.prefix_append _ _).trans before)
    rw [List.append_cons] at before ⊢
    exact inductionHypothesis next before

/-- A turn of the loop keeps what it holds sound. -/
theorem Sound.take (sound : loop.Sound valuesFor clauses run (run.flatMap (joinedValues valuesFor)))
    (clause : ClauseSegment) : ∃ run, (loop.take valuesFor clause).Sound valuesFor
      (clauses ++ [clause]) run (run.flatMap (joinedValues valuesFor)) := by
  have more : clauses <:+: clauses ++ [clause] := (List.prefix_append _ _).isInfix
  unfold GroupLoop.take
  split
  · rename_i kept
    refine ⟨run ++ [clause], ?_⟩
    have values : (run ++ [clause]).flatMap (joinedValues valuesFor) =
        run.flatMap (joinedValues valuesFor) ++ joinedValues valuesFor clause := by
      rw [List.flatMap_append, List.flatMap_singleton]
    have longer : loop.Sound valuesFor (clauses ++ [clause]) (run ++ [clause])
        (run.flatMap (joinedValues valuesFor)) := {
      closed := fun group member => (sound.closed group member).mono more
      together := (List.suffix_append_inj_of_length_eq rfl).mpr ⟨sound.together, rfl⟩
      kept := fun other member => (List.mem_append.mp member).elim (sound.kept other)
        fun last => List.mem_singleton.mp last ▸ kept
      opened := sound.opened }
    rw [values]
    exact longer.foldl_join (values ▸ List.prefix_rfl)
  · exact ⟨[], {
      closed := fun group member =>
        (sound.closed_flushChunk List.prefix_rfl group member).mono more
      together := List.nil_suffix
      kept := fun _ member => by cases member
      opened := ⟨[], List.nil_suffix, (chunk_flushChunk loop).symm, fun flag =>
        absurd (sound.no_alternative.symm.trans flag) (by decide)⟩ }⟩

theorem Sound.foldl_take
    (sound : loop.Sound valuesFor clauses run (run.flatMap (joinedValues valuesFor)))
    (others : List ClauseSegment) :
    ∃ run, (others.foldl (GroupLoop.take valuesFor) loop).Sound valuesFor (clauses ++ others) run
      (run.flatMap (joinedValues valuesFor)) := by
  induction others generalizing loop clauses run with
  | nil => exact ⟨run, by rwa [List.append_nil]⟩
  | cons clause rest inductionHypothesis =>
    obtain ⟨next, taken⟩ := sound.take clause
    rw [List.append_cons]
    exact inductionHypothesis taken

end GroupLoop

theorem groupOf_of_mem_localGroups {valuesFor : ClauseSegment → List String}
    {group : List String}
    (member : group ∈ localGroups valuesFor clauses) : GroupOf valuesFor clauses group := by
  have start : GroupLoop.start.Sound valuesFor [] [] [] := {
    closed := fun _ member => by cases member
    together := List.suffix_rfl
    kept := fun _ member => by cases member
    opened := ⟨[], List.suffix_rfl, rfl, nofun⟩ }
  obtain ⟨run, sound⟩ := start.foldl_take clauses
  exact sound.closed_flushChunk List.prefix_rfl group member

/-! ### All groups -/

/-- No clause of a slice after its first one is adversative, nor of a part of a slice. -/
theorem not_adversative {clauses slice run : List ClauseSegment}
    (member : slice ∈ adversativeSlices clauses) (part : run <:+: slice) :
    ∀ clause ∈ run.tail, clause.connector ≠ .adversative := by
  have chain : run.IsChain fun _ next => decide (next.connector ≠ .adversative) = true := by
    obtain ⟨before, behind, rfl⟩ := part
    exact (List.isChain_of_mem_splitBy member).left_of_append.right_of_append
  cases run with
  | nil => exact fun _ inside => by cases inside
  | cons first rest =>
    induction rest generalizing first with
    | nil => exact fun _ inside => by cases inside
    | cons second rest inductionHypothesis =>
      obtain ⟨here, later⟩ := List.isChain_cons_cons.mp chain
      intro clause inside
      rcases List.mem_cons.mp inside with rfl | behind
      · exact of_decide_eq_true here
      · exact inductionHypothesis second (((List.suffix_cons _ _).isInfix).trans part) later clause
          behind

/-- The groups hold the values of the required clauses and no others. A group comes from clauses in
a row of which none is skipped and none after the first is adversative, and it has several values
only where one that is not its first was joined as an alternative. -/
theorem required_value_groups (valuesFor : ClauseSegment → List String)
    (clauses : List ClauseSegment) :
    (∀ value, (∃ group ∈ requiredValueGroups valuesFor clauses, value ∈ group) ↔
      ∃ clause ∈ clauses, clause.Kept ∧ value ∈ valuesFor clause) ∧
    ∀ group ∈ requiredValueGroups valuesFor clauses,
      ∃ run joined, GroupRun valuesFor clauses run joined group ∧
        ∀ clause ∈ run.tail, clause.connector ≠ .adversative := by
  have slices : (adversativeSlices clauses).flatten = clauses := List.flatten_splitBy _ _
  have mem_groups (group : List String) : group ∈ requiredValueGroups valuesFor clauses ↔
      ∃ slice ∈ adversativeSlices clauses, group ∈ localGroups valuesFor slice := by
    simp only [requiredValueGroups, List.mem_flatMap, List.mem_insertionSort]
  constructor
  · intro value
    calc (∃ group ∈ requiredValueGroups valuesFor clauses, value ∈ group)
        ↔ ∃ slice ∈ adversativeSlices clauses,
            ∃ group ∈ localGroups valuesFor slice, value ∈ group := by
          simp only [mem_groups]
          exact ⟨fun ⟨group, ⟨slice, member, inside⟩, holds⟩ =>
              ⟨slice, member, group, inside, holds⟩,
            fun ⟨slice, member, group, inside, holds⟩ =>
              ⟨group, ⟨slice, member, inside⟩, holds⟩⟩
      _ ↔ ∃ slice ∈ adversativeSlices clauses,
            ∃ clause ∈ slice, clause.Kept ∧ value ∈ valuesFor clause := by
          simp only [mem_localGroups]
      _ ↔ ∃ clause ∈ clauses, clause.Kept ∧ value ∈ valuesFor clause := by
          conv_rhs => rw [← slices]
          simp only [List.mem_flatten]
          exact ⟨fun ⟨slice, member, clause, inside, holds⟩ =>
              ⟨clause, ⟨slice, member, inside⟩, holds⟩,
            fun ⟨clause, ⟨slice, member, inside⟩, holds⟩ =>
              ⟨slice, member, clause, inside, holds⟩⟩
  · intro group member
    obtain ⟨slice, among, inside⟩ := (mem_groups group).mp member
    obtain ⟨run, joined, from_⟩ := groupOf_of_mem_localGroups inside
    have part : slice <:+: clauses := slices ▸ List.infix_of_mem_flatten among
    exact ⟨run, joined, { from_ with together := from_.together.trans part },
      not_adversative among from_.together⟩

end

end CareerOS
