/-
This file is what the check of a backup makes of the events of tasks. A writer
puts the whole record of a task into the payload; the check bounds the payload
and reads the record back in strict mode. A record with a title that fits its
column is far below every bound.
-/

import CareerOS.Applications.Service
import CareerOS.Portability.Workspace

namespace CareerOS

variable [Pydantic]

theorem encodedSize_dumpTime_le (moment : Option DateTime) :
    (TaskResponse.dumpTime moment).encodedSize ≤ 2 + 6 * 32 := by
  cases moment with
  | none => exact (by decide : 4 ≤ 2 + 6 * 32)
  | some moment => exact Json.quotedSize_le (Pydantic.length_dumpDateTime moment)

variable {task : TaskResponse}

/-- Every item of a task record is small. -/
theorem dumpFields_le (short : task.title.length ≤ 500) (small : task.revision ≤ maxInteger) :
    ∀ field ∈ task.dumpFields, Json.quotedSize field.1 + field.2.encodedSize + 2 ≤ 3104 := by
  have status : Json.quotedSize task.status.name ≤ 11 := by cases task.status <;> decide
  have priority : Json.quotedSize task.priority.name ≤ 11 := by cases task.priority <;> decide
  have revision : (Json.int task.revision).encodedSize ≤ 19 :=
    Json.encodedSize_natCast_le (by decide) (lt_of_le_of_lt small (by decide))
  have keys : ∀ name ∈ TaskResponse.modelFields, Json.quotedSize name ≤ 14 := by decide
  have values : ∀ value ∈ task.dumpFields.map Prod.snd, value.encodedSize ≤ 2 + 6 * 500 := by
    simp only [TaskResponse.dumpFields, List.map_cons, List.map_nil, List.forall_mem_cons]
    refine ⟨?_, ?_, ?_, ?_, ?_, ?_, ?_, ?_, ?_, ?_, nofun⟩
    · exact (Json.quotedSize_le task.id_length.le).trans (by decide)
    · exact Json.quotedSize_le short
    · exact status.trans (by decide)
    · exact priority.trans (by decide)
    · exact (encodedSize_dumpTime_le _).trans (by decide)
    · exact (encodedSize_dumpTime_le _).trans (by decide)
    · exact (encodedSize_dumpTime_le _).trans (by decide)
    · exact revision.trans (by decide)
    · exact (Json.quotedSize_le (Pydantic.length_dumpDateTime _)).trans (by decide)
    · exact (Json.quotedSize_le (Pydantic.length_dumpDateTime _)).trans (by decide)
  intro field member
  have key := keys field.1 (List.mem_map_of_mem (f := Prod.fst) member)
  have value := values field.2 (List.mem_map_of_mem (f := Prod.snd) member)
  omega

/-- The payload of a task event is far below the bound on a payload. -/
theorem encodedSize_taskPayload_le (short : task.title.length ≤ 500)
    (small : task.revision ≤ maxInteger) :
    (Json.obj (taskPayload task)).encodedSize ≤ 2 + 2 * 31065 := by
  have dumped : task.modelDump.encodedSize ≤ 2 + 10 * 3104 :=
    Json.encodedSize_obj_le (dumpFields_le short small)
  have each : ∀ field ∈ taskPayload task,
      Json.quotedSize field.1 + field.2.encodedSize + 2 ≤ 31065 := by
    intro field member
    rcases List.mem_cons.mp member with rfl | isTask
    · exact (by decide : Json.quotedSize "schema_version" + Json.quotedSize "1.0" + 2 ≤ 31065)
    · rw [List.mem_singleton.mp isTask]
      have key : Json.quotedSize "task" = 6 := by decide
      show Json.quotedSize "task" + task.modelDump.encodedSize + 2 ≤ 31065
      omega
  exact Json.encodedSize_obj_le each

/-- The values of a task record are flat, and its strings are short. -/
theorem dumpFields_flat (short : task.title.length ≤ 500) :
    ∀ value ∈ task.dumpFields.map Prod.snd, value.BoundedAt 2 ∧ value.nodes = 1 := by
  have string : ∀ text : String, text.length ≤ 500 →
      (Json.str text).BoundedAt 2 ∧ (Json.str text).nodes = 1 := by
    intro text fits
    have bytes := Text.utf8ByteSize_le fits
    have limit : 4 * 500 ≤ maxEventPayloadStringBytes := by decide
    exact ⟨⟨by decide, by omega⟩, rfl⟩
  have moment : ∀ time : DateTime, (Json.str (Pydantic.dumpDateTime time)).BoundedAt 2 ∧
      (Json.str (Pydantic.dumpDateTime time)).nodes = 1 :=
    fun time => string _ ((Pydantic.length_dumpDateTime time).trans (by decide))
  have time : ∀ time, (TaskResponse.dumpTime time).BoundedAt 2 ∧
      (TaskResponse.dumpTime time).nodes = 1 := by
    intro time
    cases time with
    | none => exact ⟨(by decide : 2 ≤ maxEventPayloadDepth), rfl⟩
    | some time => exact moment time
  simp only [TaskResponse.dumpFields, List.map_cons, List.map_nil, List.forall_mem_cons]
  refine ⟨?_, string _ short, ?_, ?_, time _, time _, time _, ?_, moment _, moment _, nofun⟩
  · exact string _ (task.id_length.le.trans (by decide))
  · exact string _ (by cases task.status <;> decide)
  · exact string _ (by cases task.priority <;> decide)
  · exact ⟨(by decide : 2 ≤ maxEventPayloadDepth), rfl⟩

/-- The bound on a payload lets every task record through. -/
theorem validate_taskPayload (short : task.title.length ≤ 500)
    (small : task.revision ≤ maxInteger) :
    validateApplicationEventPayload (.obj (taskPayload task)) = .ok () := by
  have flat := dumpFields_flat short
  have size := encodedSize_taskPayload_le short small
  refine (validateBoundedJson_ok_iff _).mpr ⟨?_, ?_, size.trans (by decide)⟩
  · have count : task.modelDump.nodes = 11 := by
      show 1 + Json.nodesFields task.dumpFields = 11
      rw [nodesFields_eq, List.map_congr_left fun value member => (flat value member).2]
      rfl
    show 1 + (1 + (task.modelDump.nodes + 0)) ≤ _
    rw [count]
    decide
  · have record : task.modelDump.BoundedAt 1 := by
      refine ⟨by decide, (boundedFields_iff _ _).mpr ⟨?_, fun value member => (flat value member).1⟩⟩
      intro field member
      have key : ∀ name ∈ TaskResponse.modelFields, name.utf8ByteSize ≤ 200 := by decide
      exact key field.1 (List.mem_map_of_mem (f := Prod.fst) member)
    exact ⟨by decide, ⟨by decide, by decide, by decide⟩, ⟨by decide, record⟩, trivial⟩

/-- The backup accepts the event of a task record. -/
theorem validateEvent_taskEvent {eventType : EventType} {now : DateTime}
    (isTask : eventType.isTask = true) (short : task.title.length ≤ 500)
    (small : task.revision ≤ maxInteger) :
    validateEvent (taskEvent eventType task now) = .ok () := by
  have shape : eventShape (taskEvent eventType task now) = true := by
    revert isTask
    cases eventType <;> exact fun isTask => by first | rfl | cases isTask
  have size : validateEventSize (taskEvent eventType task now) = .ok () := by
    unfold validateEventSize
    rw [if_neg]
    · exact validate_taskPayload short small
    · rintro rfl
      cases isTask
  have keys : sameNames (Dict.keys task.dumpFields) TaskResponse.modelFields = true :=
    (by decide : sameNames TaskResponse.modelFields TaskResponse.modelFields = true)
  have read : TaskResponse.modelValidate .strict (.obj task.dumpFields) ≠ none := by
    rw [show Json.obj task.dumpFields = task.modelDump from rfl,
      TaskResponse.modelValidate_modelDump]
    exact nofun
  have payload : validateTaskPayload (taskPayload task) = .ok () := by
    show (do
      refuseWhen (¬(sameNames ["schema_version", "task"] ["schema_version", "task"] ∧
        some (Json.str "1.0") = some (.str "1.0") ∧
        sameNames (Dict.keys task.dumpFields) TaskResponse.modelFields))
        "Application task event payload is invalid"
      refuseWhen (TaskResponse.modelValidate .strict (.obj task.dumpFields) = none)
        "task record failed its schema") = Except.ok ()
    simp only [bind_ok_iff, refuseWhen_ok_iff, not_not]
    exact ⟨(), ⟨by decide, trivial, keys⟩, read⟩
  have kind : (taskEvent eventType task now).eventType.isTask = true := isTask
  simp only [validateEvent, bind_ok_iff, refuseWhen_ok_iff, not_not]
  refine ⟨(), shape, (), size, ?_⟩
  rw [if_pos kind]
  exact payload
end CareerOS
