/-
This file is how a check inside an operation is written and taken apart. An
operation that can be refused is a chain of steps in `Except`; the chain succeeds
when each of its steps does. A step that only checks something is a refusal under
a condition.
-/

import Mathlib

namespace CareerOS

universe u v

variable {Refusal : Type u} {First Second : Type v}

/-- Refuse when the condition holds. -/
def refuseWhen (condition : Prop) [Decidable condition] (refusal : Refusal) :
    Except Refusal Unit :=
  if condition then .error refusal else .ok ()

theorem refuseWhen_ok_iff {condition : Prop} [Decidable condition] {refusal : Refusal}
    {outcome : Unit} : refuseWhen condition refusal = .ok outcome ↔ ¬condition := by
  unfold refuseWhen
  split
  · rename_i refused
    exact ⟨nofun, fun accepted => absurd refused accepted⟩
  · rename_i accepted
    exact ⟨fun _ => accepted, fun _ => rfl⟩

variable {first : Except Refusal First}

/-- A chain succeeds when its first step and then the rest do. -/
theorem bind_ok_iff {rest : First → Except Refusal Second} {outcome : Second} :
    (first >>= rest) = .ok outcome ↔ ∃ value, first = .ok value ∧ rest value = .ok outcome := by
  cases first with
  | error refusal =>
    refine ⟨nofun, ?_⟩
    rintro ⟨value, impossible, -⟩
    cases impossible
  | ok value =>
    refine ⟨fun succeeded => ⟨value, rfl, succeeded⟩, ?_⟩
    rintro ⟨_, same, succeeded⟩
    cases same
    exact succeeded

theorem map_ok_iff {convert : First → Second} {outcome : Second} :
    first.map convert = .ok outcome ↔ ∃ value, first = .ok value ∧ convert value = outcome := by
  cases first with
  | error refusal =>
    refine ⟨nofun, ?_⟩
    rintro ⟨value, impossible, -⟩
    cases impossible
  | ok value =>
    refine ⟨fun same => ⟨value, rfl, Except.ok.inj same⟩, ?_⟩
    rintro ⟨_, same, converted⟩
    cases same
    exact congrArg Except.ok converted

theorem mapError_ok_iff {OtherRefusal : Type u}
    {convert : Refusal → OtherRefusal} {outcome : First} :
    first.mapError convert = .ok outcome ↔ first = .ok outcome := by
  cases first with
  | error refusal => exact ⟨nofun, nofun⟩
  | ok value => exact ⟨fun same => congrArg Except.ok (Except.ok.inj same),
      fun same => congrArg Except.ok (Except.ok.inj same)⟩

theorem pure_ok_iff {value outcome : First} :
    (pure value : Except Refusal First) = .ok outcome ↔ value = outcome :=
  ⟨Except.ok.inj, congrArg Except.ok⟩

theorem ok_of_isOk (succeeded : first.isOk = true) :
    ∃ value, first = .ok value := by
  cases first with
  | error refusal => cases succeeded
  | ok value => exact ⟨value, rfl⟩

variable {step : First → Except Refusal Second}

/-- A list of steps succeeds when each of them does. -/
theorem mapM_ok_iff (inputs : List First) :
    (∃ outputs, inputs.mapM step = .ok outputs) ↔ ∀ input ∈ inputs, ∃ output,
      step input = .ok output := by
  induction inputs with
  | nil => exact ⟨fun _ _ => nofun, fun _ => ⟨[], rfl⟩⟩
  | cons first rest inductionHypothesis =>
    rw [List.forall_mem_cons, ← inductionHypothesis]
    simp only [List.mapM_cons, bind_ok_iff, pure_ok_iff]
    constructor
    · rintro ⟨_, output, here, outputs, there, -⟩
      exact ⟨⟨output, here⟩, ⟨outputs, there⟩⟩
    · rintro ⟨⟨output, here⟩, ⟨outputs, there⟩⟩
      exact ⟨_, output, here, outputs, there, rfl⟩

/-- A list of steps returns their outcomes, one by one. -/
theorem mapM_ok_iff_forall₂ {inputs : List First}
    {outputs : List Second} : inputs.mapM step = .ok outputs ↔
      List.Forall₂ (fun input output => step input = .ok output) inputs outputs := by
  induction inputs generalizing outputs with
  | nil =>
    constructor
    · intro mapped
      obtain rfl := Except.ok.inj mapped
      exact .nil
    · intro mapped
      cases mapped
      rfl
  | cons first rest inductionHypothesis =>
    simp only [List.mapM_cons, bind_ok_iff, pure_ok_iff]
    constructor
    · rintro ⟨here, stepped, others, mapped, rfl⟩
      exact .cons stepped (inductionHypothesis.mp mapped)
    · intro mapped
      cases mapped with
      | cons stepped others => exact ⟨_, stepped, _, inductionHypothesis.mpr others, rfl⟩

/-- A related list has an item for each one. -/
theorem exists_right_of_forall₂ {related : First → Second → Prop}
    {firsts : List First} {seconds : List Second} (each : List.Forall₂ related firsts seconds)
    {first : First} (member : first ∈ firsts) : ∃ second ∈ seconds, related first second := by
  induction each with
  | nil => cases member
  | cons here _ inductionHypothesis =>
    rcases List.mem_cons.mp member with rfl | later
    · exact ⟨_, List.mem_cons_self, here⟩
    · obtain ⟨second, inside, same⟩ := inductionHypothesis later
      exact ⟨second, List.mem_cons_of_mem _ inside, same⟩

/-- What a list of steps returns is what the steps return. -/
theorem mem_of_mapM_ok {inputs : List First} :
    ∀ {outputs : List Second}, inputs.mapM step = .ok outputs → ∀ {output : Second},
      output ∈ outputs ↔ ∃ input ∈ inputs, step input = .ok output := by
  intro outputs mapped output
  have each := mapM_ok_iff_forall₂.mp mapped
  constructor
  · exact fun member => exists_right_of_forall₂ each.flip member
  · rintro ⟨input, member, stepped⟩
    obtain ⟨other, inside, same⟩ := exists_right_of_forall₂ each member
    rwa [Except.ok.inj (stepped.symm.trans same)]

/-- A loop of checks succeeds when each of them does. -/
theorem forM_ok_iff {step : First → Except Refusal PUnit} (inputs : List First) :
    forM inputs step = .ok ⟨⟩ ↔ ∀ input ∈ inputs, step input = .ok ⟨⟩ := by
  induction inputs with
  | nil => exact ⟨fun _ _ => nofun, fun _ => rfl⟩
  | cons first rest inductionHypothesis =>
    rw [List.forall_mem_cons, ← inductionHypothesis, List.forM_cons, bind_ok_iff]
    constructor
    · rintro ⟨⟨⟩, here, there⟩
      exact ⟨here, there⟩
    · rintro ⟨here, there⟩
      exact ⟨⟨⟩, here, there⟩

end CareerOS
