/-
This file is a table with a primary key: its rows in the order they were
inserted, no two of them with one key. A row is found by its key, an update
changes rows without changing their keys, and an insertion needs a key that is
not taken. Where the key is a number that the database draws, it is one above
the largest.
-/

import Mathlib

namespace CareerOS

variable {Row Key : Type*}

/-- A table of rows with a primary key. -/
structure Table (key : Row → Key) where
  rows : List Row
  distinct : (rows.map key).Nodup

namespace Table

variable {key : Row → Key}

/-- A table without rows. -/
def empty : Table key := ⟨[], List.nodup_nil⟩

/-- The row of a key. -/
def find [DecidableEq Key] (table : Table key) (value : Key) : Option Row :=
  table.rows.find? fun row => key row = value

/-- The table after a change of its rows that keeps their keys. -/
def update (table : Table key) (change : Row → Row) (keeps : ∀ row, key (change row) = key row) :
    Table key where
  rows := table.rows.map change
  distinct := by
    have same : (table.rows.map change).map key = table.rows.map key := by
      rw [List.map_map]
      exact List.map_congr_left fun row _ => keeps row
    rw [same]
    exact table.distinct

/-- The table with one more row. -/
def insert (table : Table key) (row : Row) (fresh : key row ∉ table.rows.map key) :
    Table key where
  rows := table.rows ++ [row]
  distinct := by
    rw [List.map_append, List.map_singleton, ← List.concat_eq_append]
    exact (List.nodup_concat _ _).mpr ⟨fresh, table.distinct⟩

/-- The key that the database draws for the next row. -/
def nextKey {key : Row → Nat} (table : Table key) : Nat :=
  (table.rows.map key).foldr max 0 + 1

theorem nextKey_fresh {key : Row → Nat} (table : Table key) :
    table.nextKey ∉ table.rows.map key := by
  intro taken
  have below : table.nextKey ≤ (table.rows.map key).foldr max 0 :=
    List.le_max_of_le taken le_rfl
  exact Nat.not_succ_le_self _ below

variable {table : Table key}

theorem find_eq_some_iff [DecidableEq Key] {value : Key} {row : Row} :
    table.find value = some row ↔ row ∈ table.rows ∧ key row = value := by
  unfold find
  constructor
  · intro found
    have keyed := List.find?_some found
    exact ⟨List.mem_of_find?_eq_some found, of_decide_eq_true keyed⟩
  · rintro ⟨member, rfl⟩
    cases found : table.rows.find? fun other => key other = key row with
    | none =>
      have missed := List.find?_eq_none.mp found row member
      exact absurd (decide_eq_true rfl) missed
    | some other =>
      have keyed := List.find?_some found
      have same : key other = key row := of_decide_eq_true keyed
      rw [List.inj_on_of_nodup_map table.distinct (List.mem_of_find?_eq_some found) member same]

theorem mem_update {change : Row → Row} {keeps : ∀ row, key (change row) = key row} {row : Row} :
    row ∈ (table.update change keeps).rows ↔ ∃ old ∈ table.rows, change old = row :=
  List.mem_map

theorem mem_insert {added row : Row} {fresh : key added ∉ table.rows.map key} :
    row ∈ (table.insert added fresh).rows ↔ row ∈ table.rows ∨ row = added := by
  unfold insert
  rw [List.mem_append, List.mem_singleton]

/-! ### What a statement does to the rows -/

/-- Every row is followed by a row, and every row that follows none is new. -/
structure Grew (follows : Row → Row → Prop) (isNew : Row → Prop) (before after : Table key) :
    Prop where
  kept : ∀ row ∈ before.rows, ∃ next ∈ after.rows, follows row next
  origin : ∀ next ∈ after.rows, (∃ row ∈ before.rows, follows row next) ∨ isNew next

variable {follows : Row → Row → Prop} {isNew : Row → Prop} {before : Table key}

theorem Grew.refl (table : Table key) (same : ∀ row ∈ table.rows, follows row row) :
    Grew follows isNew table table where
  kept row member := ⟨row, member, same row member⟩
  origin row member := .inl ⟨row, member, same row member⟩

theorem Grew.update {change : Row → Row} {keeps : ∀ row, key (change row) = key row}
    (changed : ∀ row ∈ before.rows, follows row (change row)) :
    Grew follows isNew before (before.update change keeps) where
  kept row member := ⟨change row, mem_update.mpr ⟨row, member, rfl⟩, changed row member⟩
  origin next member := by
    obtain ⟨row, inside, rfl⟩ := mem_update.mp member
    exact .inl ⟨row, inside, changed row inside⟩

theorem Grew.insert {added : Row} {fresh : key added ∉ before.rows.map key}
    (same : ∀ row ∈ before.rows, follows row row) (new : isNew added) :
    Grew follows isNew before (before.insert added fresh) where
  kept row member := ⟨row, mem_insert.mpr (.inl member), same row member⟩
  origin next member := by
    rcases mem_insert.mp member with inside | rfl
    · exact .inl ⟨next, inside, same next inside⟩
    · exact .inr new

/-- One statement after another. -/
theorem Grew.trans {middle after : Table key} {first second : Row → Row → Prop}
    (grew : Grew first isNew before middle) (grows : Grew second isNew middle after)
    (composed : ∀ row between next, first row between → second between next → follows row next)
    (kept : ∀ between next, isNew between → second between next → isNew next) :
    Grew follows isNew before after where
  kept row member := by
    obtain ⟨between, inside, one⟩ := grew.kept row member
    obtain ⟨next, there, two⟩ := grows.kept between inside
    exact ⟨next, there, composed row between next one two⟩
  origin next member := by
    rcases grows.origin next member with ⟨between, inside, two⟩ | new
    · rcases grew.origin between inside with ⟨row, here, one⟩ | new
      · exact .inl ⟨row, here, composed row between next one two⟩
      · exact .inr (kept between next new two)
    · exact .inr new

end Table

end CareerOS
