/-
This file is the dictionary of Python as the list of its items in insertion
order: reading a key, assigning one in place or at the end, and the keys.
-/

import Mathlib

namespace CareerOS

/-- The items of a dictionary. -/
abbrev Dict (Key Value : Type*) := List (Key × Value)

namespace Dict

variable {Key Value : Type*} [DecidableEq Key]

/-- `table.get(key)`. -/
def lookup (key : Key) (table : Dict Key Value) : Option Value :=
  (table.find? fun item => item.1 = key).map Prod.snd

/-- `table[key] = value`: in place when the key is there, else at the end. -/
def assign (key : Key) (value : Value) : Dict Key Value → Dict Key Value
  | [] => [(key, value)]
  | (other, old) :: rest =>
    if other = key then (key, value) :: rest else (other, old) :: assign key value rest

/-- The keys, in insertion order. -/
def keys (table : Dict Key Value) : List Key := table.map Prod.fst

@[simp] theorem lookup_nil (key : Key) : lookup key ([] : Dict Key Value) = none := rfl

@[simp] theorem lookup_cons (key other : Key) (value : Value) (rest : Dict Key Value) :
    lookup key ((other, value) :: rest) =
      if other = key then some value else lookup key rest := by
  unfold lookup
  rw [List.find?_cons]
  by_cases same : other = key
  · simp [same]
  · simp [same]

@[simp] theorem lookup_assign_self (key : Key) (value : Value) (table : Dict Key Value) :
    lookup key (assign key value table) = some value := by
  induction table with
  | nil => simp [assign]
  | cons item rest inductionHypothesis =>
    unfold assign
    split
    · simp
    · rename_i other
      rw [lookup_cons, if_neg other, inductionHypothesis]

theorem lookup_assign_of_ne {key other : Key} (different : other ≠ key) (value : Value)
    (table : Dict Key Value) : lookup other (assign key value table) = lookup other table := by
  induction table with
  | nil => simp [assign, different.symm]
  | cons item rest inductionHypothesis =>
    obtain ⟨first, old⟩ := item
    unfold assign
    split
    · rename_i same
      rw [lookup_cons, lookup_cons, if_neg different.symm, same, if_neg different.symm]
    · rw [lookup_cons, lookup_cons, inductionHypothesis]

/-- What is kept of a table by the key. -/
theorem lookup_filter_key (kept : Key → Bool) (key : Key) (table : Dict Key Value) :
    lookup key (table.filter fun item => kept item.1) =
      if kept key then lookup key table else none := by
  induction table with
  | nil => exact (ite_self _).symm
  | cons item rest inductionHypothesis =>
    rw [List.filter_cons, lookup_cons]
    by_cases same : item.1 = key
    · rw [same, if_pos rfl]
      split
      · rw [lookup_cons, if_pos same]
      · rename_i dropped
        rw [inductionHypothesis, if_neg dropped]
    · rw [if_neg same]
      split
      · rw [lookup_cons, if_neg same, inductionHypothesis]
      · exact inductionHypothesis

variable {key : Key}

/-- Assigning other keys leaves a key as it is. -/
theorem lookup_foldl_assign {items : Dict Key Value}
    (others : ∀ item ∈ items, item.1 ≠ key) (table : Dict Key Value) :
    lookup key (items.foldl (fun all item => assign item.1 item.2 all) table) =
      lookup key table := by
  induction items generalizing table with
  | nil => rfl
  | cons item rest inductionHypothesis =>
    obtain ⟨here, later⟩ := List.forall_mem_cons.mp others
    exact (inductionHypothesis later _).trans (lookup_assign_of_ne (Ne.symm here) item.2 table)

theorem lookup_append (key : Key) (first second : Dict Key Value) :
    lookup key (first ++ second) = ((lookup key first).or (lookup key second)) := by
  induction first with
  | nil => rfl
  | cons item rest inductionHypothesis =>
    rw [List.cons_append, lookup_cons, lookup_cons, inductionHypothesis]
    split <;> rfl

/-- A table of the values of a function. -/
theorem lookup_map_of_mem {keys : List Key} (member : key ∈ keys) (value : Key → Value) :
    lookup key (keys.map fun other => (other, value other)) = some (value key) := by
  induction keys with
  | nil => cases member
  | cons other keys inductionHypothesis =>
    rw [List.map_cons, lookup_cons]
    split
    · rename_i same
      rw [same]
    · rename_i different
      rcases List.mem_cons.mp member with same | later
      · exact absurd same.symm different
      · exact inductionHypothesis later

theorem mem_keys_iff (key : Key) (table : Dict Key Value) :
    key ∈ keys table ↔ ∃ value, lookup key table = some value := by
  induction table with
  | nil => simp [keys]
  | cons item rest inductionHypothesis =>
    obtain ⟨other, old⟩ := item
    rw [lookup_cons]
    show key ∈ other :: keys rest ↔ _
    by_cases same : other = key
    · simp [same]
    · rw [if_neg same, ← inductionHypothesis, List.mem_cons]
      exact or_iff_right (Ne.symm same)

variable {table : Dict Key Value}

/-- Assigning a key that is there leaves the keys as they were. -/
theorem keys_assign_of_mem (value : Value)
    (present : key ∈ keys table) : keys (assign key value table) = keys table := by
  induction table with
  | nil => cases present
  | cons item rest inductionHypothesis =>
    obtain ⟨first, old⟩ := item
    unfold assign
    split
    · rename_i same
      simp [keys, same]
    · rename_i other
      have inside : key ∈ keys rest := by
        rcases List.mem_cons.mp present with same | inside
        · exact absurd same.symm other
        · exact inside
      show first :: keys (assign key value rest) = first :: keys rest
      rw [inductionHypothesis inside]

/-- Assigning a new key puts it at the end. -/
theorem assign_of_not_mem (value : Value)
    (fresh : key ∉ keys table) : assign key value table = table ++ [(key, value)] := by
  induction table with
  | nil => rfl
  | cons item rest inductionHypothesis =>
    obtain ⟨first, old⟩ := item
    unfold assign
    have outside : key ≠ first ∧ key ∉ keys rest := not_or.mp (mt List.mem_cons.mpr fresh)
    rw [if_neg (Ne.symm outside.1), inductionHypothesis outside.2, List.cons_append]

/-- Assigning keeps the keys different. -/
theorem nodup_keys_assign (value : Value)
    (distinct : (keys table).Nodup) : (keys (assign key value table)).Nodup := by
  by_cases present : key ∈ keys table
  · rw [keys_assign_of_mem value present]
    exact distinct
  · rw [assign_of_not_mem value present]
    show ((table ++ [(key, value)]).map Prod.fst).Nodup
    rw [List.map_append, List.nodup_append]
    refine ⟨distinct, List.pairwise_singleton _ _, ?_⟩
    rintro other member _ single rfl
    rw [List.map_singleton, List.mem_singleton] at single
    rw [single] at member
    exact present member

/-- With different keys, the items are what reading finds. -/
theorem mem_iff_lookup (distinct : (keys table).Nodup) (key : Key)
    (value : Value) : (key, value) ∈ table ↔ lookup key table = some value := by
  induction table with
  | nil => simp
  | cons item rest inductionHypothesis =>
    obtain ⟨other, old⟩ := item
    obtain ⟨fresh, restDistinct⟩ := List.nodup_cons.mp distinct
    rw [List.mem_cons, lookup_cons]
    by_cases same : other = key
    · subst same
      rw [if_pos rfl]
      constructor
      · rintro (equal | inside)
        · rw [(Prod.mk.inj equal).2]
        · exact absurd (List.mem_map_of_mem inside) fresh
      · intro equal
        rw [Option.some.inj equal]
        exact Or.inl rfl
    · rw [if_neg same, inductionHypothesis restDistinct]
      exact or_iff_right fun equal => same (Prod.mk.inj equal).1.symm

end Dict

end CareerOS
