/-
This file is the bound on the JSON an ordinary timeline event may carry. The
validator walks the value with a stack, counting the values it takes off, and
afterwards measures the compact text. It is used twice: by the request schema
that lets an event in, and by the backup that lets it out.

The walk is described without the stack: it succeeds exactly when the tree has
few enough values and each value is acceptable at its depth.
-/

import CareerOS.Library.Json

namespace CareerOS

def maxEventPayloadBytes : Nat := 64 * 1024
def maxEventPayloadDepth : Nat := 8
def maxEventPayloadNodes : Nat := 1000
def maxEventPayloadStringBytes : Nat := 16 * 1024

/-- `math.isfinite` on the shortest text of a float. -/
def finiteFloat (text : String) : Bool := !(["nan", "inf", "-inf"].contains text)

/-- The check of one value, and the children the walk still owes. -/
def boundedItem (item : Json) : Except String (List Json) :=
  match item with
  | .null | .bool _ | .int _ => .ok []
  | .float text => if finiteFloat text then .ok [] else .error "payload numbers must be finite"
  | .str text =>
    if text.utf8ByteSize > maxEventPayloadStringBytes then
      .error "payload contains an oversized string"
    else .ok []
  | .arr items => .ok items
  | .obj fields =>
    if fields.any fun field => field.1.utf8ByteSize > 200 then
      .error "payload contains an oversized object key"
    else .ok (fields.map Prod.snd)

/-- The loop of `_validate_bounded_json`, by the number of values it may still take off the
stack. The children are pushed in order, so the last one is taken first. -/
def boundedWalk : Nat → List (Json × Nat) → Except String Unit
  | _, [] => .ok ()
  | 0, _ :: _ => .error "payload contains too many JSON nodes"
  | remaining + 1, (item, depth) :: stack =>
    if depth > maxEventPayloadDepth then .error "payload nesting is too deep"
    else
      match boundedItem item with
      | .error refusal => .error refusal
      | .ok children =>
        boundedWalk remaining ((children.reverse.map fun child => (child, depth + 1)) ++ stack)

/-- `_validate_bounded_json`. The walk has left nothing `json.dumps` could refuse. -/
def validateBoundedJson (value : Json) : Except String Unit :=
  match boundedWalk maxEventPayloadNodes [(value, 0)] with
  | .error refusal => .error refusal
  | .ok () =>
    if value.encodedSize > maxEventPayloadBytes then .error "payload exceeds 65536 bytes"
    else .ok ()

/-- `validate_application_event_payload`. -/
def validateApplicationEventPayload (value : Json) : Except String Unit :=
  validateBoundedJson value

/-! ### The walk without the stack -/

mutual

/-- The number of values in the tree. -/
def Json.nodes : Json → Nat
  | .arr items => 1 + Json.nodesItems items
  | .obj fields => 1 + Json.nodesFields fields
  | _ => 1

def Json.nodesItems : List Json → Nat
  | [] => 0
  | item :: rest => item.nodes + Json.nodesItems rest

def Json.nodesFields : Dict String Json → Nat
  | [] => 0
  | (_, item) :: rest => item.nodes + Json.nodesFields rest

end

mutual

/-- Every value of the tree is acceptable where it stands. -/
def Json.BoundedAt : Nat → Json → Prop
  | depth, .float text => depth ≤ maxEventPayloadDepth ∧ finiteFloat text = true
  | depth, .str text =>
    depth ≤ maxEventPayloadDepth ∧ text.utf8ByteSize ≤ maxEventPayloadStringBytes
  | depth, .arr items => depth ≤ maxEventPayloadDepth ∧ Json.BoundedItems (depth + 1) items
  | depth, .obj fields => depth ≤ maxEventPayloadDepth ∧ Json.BoundedFields (depth + 1) fields
  | depth, _ => depth ≤ maxEventPayloadDepth

def Json.BoundedItems : Nat → List Json → Prop
  | _, [] => True
  | depth, item :: rest => item.BoundedAt depth ∧ Json.BoundedItems depth rest

def Json.BoundedFields : Nat → Dict String Json → Prop
  | _, [] => True
  | depth, (key, item) :: rest =>
    (key.utf8ByteSize ≤ 200 ∧ item.BoundedAt depth) ∧ Json.BoundedFields depth rest

end

theorem nodesItems_eq (items : List Json) :
    Json.nodesItems items = (items.map Json.nodes).sum := by
  induction items with
  | nil => rfl
  | cons item rest inductionHypothesis =>
    rw [Json.nodesItems, inductionHypothesis, List.map_cons, List.sum_cons]

theorem nodesFields_eq (fields : Dict String Json) :
    Json.nodesFields fields = ((fields.map Prod.snd).map Json.nodes).sum := by
  induction fields with
  | nil => rfl
  | cons field rest inductionHypothesis =>
    rw [Json.nodesFields, inductionHypothesis, List.map_cons, List.map_cons, List.sum_cons]

theorem boundedItems_iff (depth : Nat) (items : List Json) :
    Json.BoundedItems depth items ↔ ∀ item ∈ items, item.BoundedAt depth := by
  induction items with
  | nil => simp [Json.BoundedItems]
  | cons item rest inductionHypothesis =>
    rw [Json.BoundedItems, inductionHypothesis, List.forall_mem_cons]

theorem boundedFields_iff (depth : Nat) (fields : Dict String Json) :
    Json.BoundedFields depth fields ↔
      (∀ field ∈ fields, field.1.utf8ByteSize ≤ 200) ∧
        ∀ item ∈ fields.map Prod.snd, item.BoundedAt depth := by
  induction fields with
  | nil => simp [Json.BoundedFields]
  | cons field rest inductionHypothesis =>
    rw [Json.BoundedFields, inductionHypothesis, List.forall_mem_cons, List.map_cons,
      List.forall_mem_cons]
    tauto

/-- What the check of one value leaves to its children. -/
theorem boundedItem_spec (item : Json) (depth : Nat) :
    (∃ refusal, boundedItem item = .error refusal ∧ ¬item.BoundedAt depth) ∨
      ∃ children, boundedItem item = .ok children ∧
        item.nodes = 1 + (children.map Json.nodes).sum ∧
        (item.BoundedAt depth ↔ depth ≤ maxEventPayloadDepth ∧
          ∀ child ∈ children, child.BoundedAt (depth + 1)) := by
  cases item with
  | null | bool _ | int _ =>
    exact Or.inr ⟨[], rfl, rfl, by simp [Json.BoundedAt]⟩
  | float text =>
    by_cases finite : finiteFloat text = true
    · exact Or.inr ⟨[], if_pos finite, rfl, by simp [Json.BoundedAt, finite]⟩
    · exact Or.inl ⟨_, if_neg finite, by simp [Json.BoundedAt, finite]⟩
  | str text =>
    by_cases oversized : text.utf8ByteSize > maxEventPayloadStringBytes
    · exact Or.inl ⟨_, if_pos oversized, by simp [Json.BoundedAt]; omega⟩
    · exact Or.inr ⟨[], if_neg oversized, rfl, by simp [Json.BoundedAt]; omega⟩
  | arr items =>
    exact Or.inr ⟨items, rfl, by rw [Json.nodes, nodesItems_eq],
      by rw [Json.BoundedAt, boundedItems_iff]⟩
  | obj fields =>
    by_cases oversized : fields.any (fun field => field.1.utf8ByteSize > 200) = true
    · refine Or.inl ⟨_, if_pos oversized, fun bounded => ?_⟩
      rw [Json.BoundedAt, boundedFields_iff] at bounded
      obtain ⟨field, member, long⟩ := List.any_eq_true.mp oversized
      have := bounded.2.1 field member
      simp only [decide_eq_true_eq] at long
      omega
    · refine Or.inr ⟨fields.map Prod.snd, if_neg oversized, by rw [Json.nodes, nodesFields_eq], ?_⟩
      rw [Json.BoundedAt, boundedFields_iff]
      have short : ∀ field ∈ fields, field.1.utf8ByteSize ≤ 200 := by
        intro field member
        by_contra long
        exact oversized (List.any_eq_true.mpr ⟨field, member, by simpa using long⟩)
      tauto

/-- The walk succeeds exactly on stacks with few enough values, all acceptable. -/
theorem boundedWalk_ok_iff (remaining : Nat) (stack : List (Json × Nat)) :
    boundedWalk remaining stack = .ok () ↔
      (stack.map fun entry => entry.1.nodes).sum ≤ remaining ∧
        ∀ entry ∈ stack, entry.1.BoundedAt entry.2 := by
  induction remaining generalizing stack with
  | zero =>
    cases stack with
    | nil => simp [boundedWalk]
    | cons entry rest =>
      have positive : 0 < entry.1.nodes := by
        rcases boundedItem_spec entry.1 0 with ⟨_, refused, _⟩ | ⟨_, _, count, _⟩
        · cases shape : entry.1 with
          | null | bool _ | int _ | float _ | str _ => exact Nat.one_pos
          | arr _ | obj _ => rw [Json.nodes]; omega
        · omega
      simp only [boundedWalk, List.map_cons, List.sum_cons]
      constructor
      · intro impossible
        cases impossible
      · rintro ⟨few, _⟩
        omega
  | succ remaining inductionHypothesis =>
    cases stack with
    | nil => simp [boundedWalk]
    | cons entry rest =>
      obtain ⟨item, depth⟩ := entry
      have deepRefused : maxEventPayloadDepth < depth → ¬item.BoundedAt depth := by
        intro deep bounded
        have shallow : depth ≤ maxEventPayloadDepth := by
          cases item with
          | null | bool _ | int _ => exact bounded
          | float _ | str _ | arr _ | obj _ => exact bounded.1
        omega
      unfold boundedWalk
      by_cases deep : depth > maxEventPayloadDepth
      · rw [if_pos deep]
        simp only [List.forall_mem_cons, deepRefused deep, false_and, and_false, iff_false]
        intro impossible
        cases impossible
      · rw [if_neg deep]
        rcases boundedItem_spec item depth with
          ⟨refusal, refused, bad⟩ | ⟨children, checked, count, bounded⟩
        · rw [refused]
          simp only [List.forall_mem_cons, bad, false_and, and_false, iff_false]
          intro impossible
          cases impossible
        · rw [checked]
          simp only
          rw [inductionHypothesis]
          have total : (((children.reverse.map fun child => (child, depth + 1)) ++ rest).map
              fun entry => entry.1.nodes).sum =
                (children.map Json.nodes).sum + (rest.map fun entry => entry.1.nodes).sum := by
            rw [List.map_append, List.sum_append, List.map_map, List.map_reverse, List.sum_reverse]
            rfl
          rw [total, List.map_cons, List.sum_cons, List.forall_mem_cons, bounded]
          simp only [List.forall_mem_append, List.forall_mem_map, List.mem_reverse]
          rw [count]
          have shallow : depth ≤ maxEventPayloadDepth := by omega
          constructor
          · rintro ⟨few, childrenFine, restFine⟩
            exact ⟨by omega, ⟨shallow, childrenFine⟩, restFine⟩
          · rintro ⟨few, ⟨_, childrenFine⟩, restFine⟩
            exact ⟨by omega, childrenFine, restFine⟩

/-- The payloads the bound accepts. -/
theorem validateBoundedJson_ok_iff (value : Json) :
    validateBoundedJson value = .ok () ↔
      value.nodes ≤ maxEventPayloadNodes ∧ value.BoundedAt 0 ∧
        value.encodedSize ≤ maxEventPayloadBytes := by
  unfold validateBoundedJson
  have walk := boundedWalk_ok_iff maxEventPayloadNodes [(value, 0)]
  simp only [List.map_cons, List.map_nil, List.sum_cons, List.sum_nil, Nat.add_zero,
    List.forall_mem_cons, List.not_mem_nil, IsEmpty.forall_iff, implies_true, and_true] at walk
  rw [← and_assoc, ← walk]
  cases boundedWalk maxEventPayloadNodes [(value, 0)] with
  | error refusal => simp
  | ok _ =>
    by_cases oversized : value.encodedSize > maxEventPayloadBytes
    · simp [oversized]
    · have fits : value.encodedSize ≤ maxEventPayloadBytes := by omega
      simp [fits]

end CareerOS
