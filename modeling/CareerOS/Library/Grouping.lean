/-
This file is two loops over the rows of a table. One collects the rows under a
key, `table.setdefault(key, []).append(row)`: every key holds the rows that have
it, in the order of the table. The other sorts rows by their name and then, with
a stable sort, by their time with the latest first: the first row is the one no
other row is ahead of, whatever order the rows came in.

A list of items is written into a dictionary item by item. Where one key has one
value, none of the items overwrites another one.
-/

import CareerOS.Library.Dict

namespace CareerOS

namespace Dict

variable {Key Value : Type*} [DecidableEq Key]

/-! ### Rows under a key -/

/-- `table.setdefault(key, []).append(value)`. -/
def push (key : Key) (value : Value) (table : Dict Key (List Value)) : Dict Key (List Value) :=
  assign key ((lookup key table).getD [] ++ [value]) table

/-- The rows of a list under their keys; a row without a key is left out. -/
def groupFrom (key : Value → Option Key) (table : Dict Key (List Value)) :
    List Value → Dict Key (List Value)
  | [] => table
  | value :: rest =>
    match key value with
    | some found => groupFrom key (push found value table) rest
    | none => groupFrom key table rest

/-- The rows that have a key. -/
def having (key : Value → Option Key) (found : Key) (values : List Value) : List Value :=
  values.filter fun value => key value = some found

theorem mem_having {key : Value → Option Key} {found : Key} {values : List Value}
    {value : Value} : value ∈ having key found values ↔ value ∈ values ∧ key value = some found := by
  rw [having, List.mem_filter, decide_eq_true_iff]

/-- A key holds what it held, followed by the rows that have it. -/
theorem getD_lookup_groupFrom (key : Value → Option Key) (found : Key) (values : List Value) :
    ∀ table : Dict Key (List Value), (lookup found (groupFrom key table values)).getD [] =
      (lookup found table).getD [] ++ having key found values := by
  induction values with
  | nil => exact fun table => (List.append_nil _).symm
  | cons value rest inductionHypothesis =>
    intro table
    unfold groupFrom
    cases keyed : key value with
    | none =>
      have skipped : having key found (value :: rest) = having key found rest :=
        List.filter_cons_of_neg (by simp [keyed])
      rw [skipped]
      exact inductionHypothesis table
    | some here =>
      show (lookup found (groupFrom key (push here value table) rest)).getD [] = _
      rw [inductionHypothesis]
      by_cases same : here = found
      · subst same
        have kept : having key here (value :: rest) = value :: having key here rest :=
          List.filter_cons_of_pos (by simp [keyed])
        rw [kept, push, lookup_assign_self, Option.getD_some, List.append_assoc,
          List.singleton_append]
      · have skipped : having key found (value :: rest) = having key found rest :=
          List.filter_cons_of_neg (by simp [keyed, same])
        rw [skipped, push, lookup_assign_of_ne (Ne.symm same)]

/-- An item of a dictionary that was assigned to is the assigned one or an old one. -/
theorem mem_of_mem_assign {key : Key} {value : Value} {table : Dict Key Value}
    {item : Key × Value} (member : item ∈ assign key value table) :
    item = (key, value) ∨ item ∈ table := by
  induction table with
  | nil => exact Or.inl (List.mem_singleton.mp member)
  | cons first rest inductionHypothesis =>
    unfold assign at member
    split at member
    · rcases List.mem_cons.mp member with same | inside
      · exact Or.inl same
      · exact Or.inr (List.mem_cons_of_mem _ inside)
    · rcases List.mem_cons.mp member with same | inside
      · exact Or.inr (same ▸ List.mem_cons_self)
      · exact (inductionHypothesis inside).imp_right (List.mem_cons_of_mem _)

/-- No key holds an empty list. -/
theorem ne_nil_of_mem_groupFrom (key : Value → Option Key) (values : List Value) :
    ∀ table : Dict Key (List Value), (∀ item ∈ table, item.2 ≠ []) →
      ∀ item ∈ groupFrom key table values, item.2 ≠ [] := by
  induction values with
  | nil => exact fun table filled => filled
  | cons value rest inductionHypothesis =>
    intro table filled
    unfold groupFrom
    cases key value with
    | none => exact inductionHypothesis table filled
    | some here =>
      refine inductionHypothesis (push here value table) fun item member => ?_
      rcases mem_of_mem_assign member with assigned | inside
      · rw [assigned]
        exact List.append_ne_nil_of_right_ne_nil _ (List.cons_ne_nil _ _)
      · exact filled item inside

theorem nodup_keys_groupFrom (key : Value → Option Key) (values : List Value) :
    ∀ table : Dict Key (List Value), (keys table).Nodup →
      (keys (groupFrom key table values)).Nodup := by
  induction values with
  | nil => exact fun table distinct => distinct
  | cons value rest inductionHypothesis =>
    intro table distinct
    unfold groupFrom
    cases key value with
    | none => exact inductionHypothesis table distinct
    | some here => exact inductionHypothesis _ (nodup_keys_assign _ distinct)

/-- The items of the grouped rows: the keys some row has, with all the rows that have them. -/
theorem mem_groupFrom_nil {key : Value → Option Key} {values : List Value} {found : Key}
    {rows : List Value} : (found, rows) ∈ groupFrom key [] values ↔
      rows = having key found values ∧ rows ≠ [] := by
  have distinct := nodup_keys_groupFrom key values [] List.nodup_nil
  have held := getD_lookup_groupFrom key found values []
  rw [lookup_nil, Option.getD_none, List.nil_append] at held
  constructor
  · intro member
    have filled := ne_nil_of_mem_groupFrom key values [] nofun _ member
    rw [(mem_iff_lookup distinct _ _).mp member, Option.getD_some] at held
    exact ⟨held, filled⟩
  · rintro ⟨rfl, filled⟩
    rw [mem_iff_lookup distinct]
    cases read : lookup found (groupFrom key [] values) with
    | none =>
      rw [read, Option.getD_none] at held
      exact absurd held.symm filled
    | some rows => rw [← held, read, Option.getD_some]

/-- Where every row has a key of its own, every key holds one row. -/
theorem groupFrom_of_nodup (key : Value → Key) (values : List Value) :
    ∀ table : Dict Key (List Value), (keys table ++ values.map key).Nodup →
      groupFrom (fun value => some (key value)) table values =
        table ++ values.map fun value => (key value, [value]) := by
  induction values with
  | nil => exact fun table _ => (List.append_nil table).symm
  | cons value rest inductionHypothesis =>
    intro table distinct
    have fresh : key value ∉ keys table := fun inside =>
      (List.nodup_append.mp distinct).2.2 _ inside _ List.mem_cons_self rfl
    have unread : lookup (key value) table = none := by
      by_contra found
      exact fresh ((mem_keys_iff _ _).mpr (Option.ne_none_iff_exists'.mp found))
    have pushed : push (key value) value table = table ++ [(key value, [value])] := by
      unfold push
      rw [unread, Option.getD_none, List.nil_append, assign_of_not_mem _ fresh]
    unfold groupFrom
    simp only [pushed]
    rw [inductionHypothesis, List.map_cons, List.append_assoc, List.singleton_append]
    rw [List.map_cons] at distinct
    simpa only [keys, List.map_append, List.map_cons, List.map_nil, List.append_assoc,
      List.singleton_append] using distinct

/-! ### Items written one by one -/

/-- Write the items of a list, in their order. -/
def assignAll (table : Dict Key Value) (items : List (Key × Value)) : Dict Key Value :=
  items.foldl (fun table item => assign item.1 item.2 table) table

theorem lookup_assignAll_of_not_mem {key : Key} (items : List (Key × Value)) :
    ∀ table : Dict Key Value, key ∉ items.map Prod.fst →
      lookup key (assignAll table items) = lookup key table := by
  induction items with
  | nil => exact fun table _ => rfl
  | cons item rest inductionHypothesis =>
    intro table fresh
    rw [List.map_cons, List.mem_cons, not_or] at fresh
    show lookup key (assignAll (assign item.1 item.2 table) rest) = _
    rw [inductionHypothesis _ fresh.2, lookup_assign_of_ne fresh.1]

/-- The last item of a key is read back. -/
theorem lookup_assignAll (key : Key) (items : List (Key × Value)) (table : Dict Key Value) :
    lookup key (assignAll table items) = (lookup key items.reverse).or (lookup key table) := by
  induction items generalizing table with
  | nil => rfl
  | cons item rest inductionHypothesis =>
    have step := inductionHypothesis (assign item.1 item.2 table)
    rw [List.reverse_cons, lookup_append, Option.or_assoc]
    refine step.trans (congrArg _ ?_)
    rw [lookup_cons, lookup_nil]
    by_cases same : item.1 = key
    · rw [same, lookup_assign_self, if_pos rfl, Option.some_or]
    · rw [lookup_assign_of_ne (Ne.symm same), if_neg same, Option.none_or]

/-- An item is read back when no other value is written under its key. -/
theorem lookup_assignAll_of_mem {key : Key} {value : Value} (items : List (Key × Value)) :
    ∀ table : Dict Key Value, (key, value) ∈ items →
      (∀ other, (key, other) ∈ items → other = value) →
      lookup key (assignAll table items) = some value := by
  induction items with
  | nil => exact fun _ => nofun
  | cons item rest inductionHypothesis =>
    intro table member only
    show lookup key (assignAll (assign item.1 item.2 table) rest) = some value
    by_cases again : key ∈ rest.map Prod.fst
    · obtain ⟨⟨_, other⟩, inside, rfl⟩ := List.mem_map.mp again
      have same : other = value := only other (List.mem_cons_of_mem _ inside)
      subst same
      exact inductionHypothesis _ inside fun later laterInside =>
        only later (List.mem_cons_of_mem _ laterInside)
    · rw [lookup_assignAll_of_not_mem rest _ again]
      rcases List.mem_cons.mp member with same | inside
      · subst same
        exact lookup_assign_self _ _ _
      · exact absurd (List.mem_map_of_mem inside) again

end Dict

/-! ### The latest row -/

namespace Ranking

variable {Row Time Name : Type*} [LinearOrder Time] [LinearOrder Name]
variable (time : Row → Time) (name : Row → Name)

/-- One row is later than another one, or of the same time with a smaller name. -/
def Ahead (first second : Row) : Prop :=
  time second < time first ∨ (time second = time first ∧ name first < name second)

instance (first second : Row) : Decidable (Ahead time name first second) := by
  unfold Ahead
  infer_instance

/-- `rows.sort(key=name)` and then `rows.sort(key=time, reverse=True)`. -/
def ranked (rows : List Row) : List Row :=
  (rows.insertionSort fun first second => name first ≤ name second).insertionSort
    fun first second => time second ≤ time first

variable {time name}

theorem Ahead.not_symm {first second : Row} (ahead : Ahead time name first second) :
    ¬Ahead time name second first := by
  rintro (later | ⟨same, smaller⟩)
  · rcases ahead with earlier | ⟨equal, -⟩
    · exact lt_asymm later earlier
    · exact later.ne equal.symm
  · rcases ahead with earlier | ⟨-, larger⟩
    · exact earlier.ne same.symm
    · exact lt_asymm smaller larger

theorem mem_ranked {row : Row} {rows : List Row} :
    row ∈ ranked time name rows ↔ row ∈ rows := by
  rw [ranked, List.mem_insertionSort, List.mem_insertionSort]

/-- The relation the two sorts establish between a row and those after it. -/
def NotAfter (time : Row → Time) (name : Row → Name) (first second : Row) : Prop :=
  time second < time first ∨ (time second = time first ∧ name first ≤ name second)

/-- A row put in its place by its time stays in front of the rows of a larger name. -/
theorem pairwise_orderedInsert {row : Row} {rows : List Row}
    (sorted : rows.Pairwise (NotAfter time name)) (larger : ∀ other ∈ rows, name row ≤ name other) :
    (rows.orderedInsert (fun first second => time second ≤ time first) row).Pairwise
      (NotAfter time name) := by
  induction rows with
  | nil => exact List.pairwise_singleton _ _
  | cons first rest inductionHypothesis =>
    obtain ⟨ahead, restSorted⟩ := List.pairwise_cons.mp sorted
    obtain ⟨firstLarger, restLarger⟩ := List.forall_mem_cons.mp larger
    rw [List.orderedInsert_cons]
    split
    · rename_i placed
      refine List.pairwise_cons.mpr ⟨fun other member => ?_, sorted⟩
      have notLater : time other ≤ time row := by
        rcases List.mem_cons.mp member with same | inside
        · exact same ▸ placed
        · rcases ahead other inside with earlier | ⟨equal, -⟩
          · exact earlier.le.trans placed
          · exact equal.le.trans placed
      rcases notLater.lt_or_eq with earlier | equal
      · exact Or.inl earlier
      · exact Or.inr ⟨equal, larger other member⟩
    · rename_i later
      refine List.pairwise_cons.mpr ⟨fun other member => ?_,
        inductionHypothesis restSorted restLarger⟩
      rcases List.mem_orderedInsert _ |>.mp member with same | inside
      · exact Or.inl (same ▸ not_le.mp later)
      · exact ahead other inside

theorem pairwise_insertionSort {rows : List Row}
    (sorted : rows.Pairwise fun first second => name first ≤ name second) :
    (rows.insertionSort fun first second => time second ≤ time first).Pairwise
      (NotAfter time name) := by
  induction rows with
  | nil => exact List.Pairwise.nil
  | cons row rest inductionHypothesis =>
    obtain ⟨larger, restSorted⟩ := List.pairwise_cons.mp sorted
    rw [List.insertionSort_cons]
    refine pairwise_orderedInsert (inductionHypothesis restSorted) fun other member => ?_
    exact larger other ((List.mem_insertionSort _).mp member)

/-- The first of the sorted rows is ahead of every other one. -/
theorem ahead_of_head {rows rest : List Row} {first : Row}
    (named : ∀ row ∈ rows, ∀ other ∈ rows, name row = name other → row = other)
    (sorted : ranked time name rows = first :: rest) :
    first ∈ rows ∧ ∀ row ∈ rows, row = first ∨ Ahead time name first row := by
  have pairwise : (ranked time name rows).Pairwise (NotAfter time name) :=
    pairwise_insertionSort (List.pairwise_insertionSort _ rows)
  rw [sorted] at pairwise
  have here : first ∈ rows := mem_ranked.mp (sorted ▸ List.mem_cons_self)
  refine ⟨here, fun row member => ?_⟩
  rcases List.mem_cons.mp (sorted ▸ mem_ranked.mpr member : row ∈ first :: rest) with same | after
  · exact Or.inl same
  · rcases (List.pairwise_cons.mp pairwise).1 row after with earlier | ⟨equal, smaller⟩
    · exact Or.inr (Or.inl earlier)
    · rcases smaller.lt_or_eq with below | same
      · exact Or.inr (Or.inr ⟨equal, below⟩)
      · exact Or.inl (named row member first here same.symm)

end Ranking

end CareerOS
