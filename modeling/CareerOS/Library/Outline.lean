/-
This file is about elements that have other elements below them, listed in document
order: every element is followed by the elements below it. A chain goes from an element
to one below it and from there on, each step to an element of a given kind. Listing
chains reaches an element as often as there are chains to it, and when no end is
repeated, the ends of the first chains are the first elements that can be reached.

A search that follows a limited number of chains of every length gives the ends of some
first chains. It finds the first elements in document order when these ends differ and
either fill the limit or leave no element out, and only then.
-/

import Mathlib

namespace CareerOS

namespace Outline

variable {Element : Type*} {below : Element → List Element}

/-! ### Document order -/

/-- Every element of a list is followed by the elements below it. -/
def Laid (below : Element → List Element) (elements : List Element) : Prop :=
  ∀ before element after, elements = before ++ element :: after → below element <+: after

theorem Laid.suffix {first second : List Element} (laid : Laid below (first ++ second)) :
    Laid below second := fun before element after split =>
  laid (first ++ before) element after (by rw [split, List.append_assoc])

variable {element : Element} {rest : List Element}

theorem Laid.tail
    (laid : Laid below (element :: rest)) : Laid below rest := fun before other after split =>
  laid (element :: before) other after (by rw [split, List.cons_append])

theorem Laid.head (laid : Laid below (element :: rest)) : below element <+: rest :=
  laid [] element rest rfl

theorem Laid.append {first second : List Element} (one : Laid below first)
    (other : Laid below second) : Laid below (first ++ second) := by
  intro before element after split
  rcases List.append_eq_append_iff.mp split with ⟨between, rfl, later⟩ | ⟨between, here, later⟩
  · exact other between element after later
  · cases between with
    | nil => exact other [] element after later.symm
    | cons head between =>
      obtain ⟨rfl, rfl⟩ := List.cons.inj later
      exact (one before element between here).trans (List.prefix_append _ _)

variable {elements : List Element}

/-- What is below an element of a list stands in the list. -/
theorem Laid.subset (laid : Laid below elements)
    (member : element ∈ elements) : below element ⊆ elements := by
  obtain ⟨before, after, rfl⟩ := List.append_of_mem member
  exact fun other inside => List.mem_append_right _
    (List.mem_cons_of_mem _ ((laid before element after rfl).subset inside))

/-! ### Chains -/

section

variable (below)

/-- The chains from an element whose steps are of the given kinds, in document order. -/
def chains (start : Element) : List (Element → Bool) → List (List Element)
  | [] => [[]]
  | kind :: kinds => ((below start).filter kind).flatMap fun element =>
      (chains element kinds).map (element :: ·)

/-- Where a chain ends. -/
def endOf (start : Element) (chain : List Element) : Element := chain.getLast?.getD start

/-- The ends of the chains. -/
def ends (start : Element) : List (Element → Bool) → List Element
  | [] => [start]
  | kind :: kinds => ((below start).filter kind).flatMap fun element => ends element kinds

variable [DecidableEq Element]

/-- Some chain ends at an element. -/
def selected (start : Element) : List (Element → Bool) → Element → Bool
  | [], element => element = start
  | kind :: kinds, element => (below start).any fun between =>
      kind between && selected between kinds element

end

theorem endOf_cons (start element : Element) (chain : List Element) :
    endOf start (element :: chain) = endOf element chain := by
  unfold endOf
  rw [List.getLast?_cons]
  rfl

theorem endOf_append_singleton (start element : Element) (chain : List Element) :
    endOf start (chain ++ [element]) = element := by
  unfold endOf
  rw [List.getLast?_append]
  rfl

theorem map_endOf_chains (start : Element) (kinds : List (Element → Bool)) :
    (chains below start kinds).map (endOf start) = ends below start kinds := by
  induction kinds generalizing start with
  | nil => rfl
  | cons kind kinds inductionHypothesis =>
    unfold chains ends
    rw [List.map_flatMap]
    refine List.flatMap_congr fun element _ => ?_
    rw [← inductionHypothesis element, List.map_map]
    exact List.map_congr_left fun chain _ => endOf_cons start element chain

/-- A chain is extended by an element below its end. -/
theorem chains_append_singleton (start : Element) (kinds : List (Element → Bool))
    (kind : Element → Bool) :
    chains below start (kinds ++ [kind]) = (chains below start kinds).flatMap fun chain =>
      ((below (endOf start chain)).filter kind).map fun element => chain ++ [element] := by
  induction kinds generalizing start with
  | nil =>
    simp only [chains, List.nil_append, List.flatMap_singleton, endOf, List.getLast?_nil,
      Option.getD_none, List.map_singleton]
    exact List.flatMap_pure_eq_map _ _
  | cons first kinds inductionHypothesis =>
    rw [List.cons_append]
    unfold chains
    rw [List.flatMap_assoc]
    refine List.flatMap_congr fun element _ => ?_
    rw [inductionHypothesis, List.map_flatMap, List.flatMap_map]
    refine List.flatMap_congr fun chain _ => ?_
    rw [List.map_map, endOf_cons]
    rfl

variable {kinds : List (Element → Bool)} {start : Element}

theorem length_of_mem_chains {chain : List Element} (member : chain ∈ chains below start kinds) :
    chain.length = kinds.length := by
  induction kinds generalizing start chain with
  | nil =>
    obtain rfl := List.mem_singleton.mp member
    rfl
  | cons kind kinds inductionHypothesis =>
    obtain ⟨element, -, inside⟩ := List.mem_flatMap.mp member
    obtain ⟨rest, here, rfl⟩ := List.mem_map.mp inside
    rw [List.length_cons, List.length_cons, inductionHypothesis here]

theorem nodup_chains (laid : ∀ element, Laid below (below element))
    (distinct : (below start).Nodup) (kinds : List (Element → Bool)) :
    (chains below start kinds).Nodup := by
  induction kinds generalizing start with
  | nil => exact List.nodup_singleton _
  | cons kind kinds inductionHypothesis =>
    unfold chains
    refine List.nodup_flatMap.mpr ⟨fun element member => ?_, ?_⟩
    · obtain ⟨before, after, split⟩ := List.append_of_mem (List.mem_of_mem_filter member)
      have inside : (below element).Sublist (below start) := by
        rw [split]
        exact ((laid start before element after split).sublist.trans
          (List.sublist_cons_self _ _)).trans (List.sublist_append_right _ _)
      refine (inductionHypothesis (distinct.sublist inside)).map ?_
      exact fun first second same => (List.cons.inj same).2
    · refine (distinct.filter _).imp fun different => ?_
      intro chain one other
      obtain ⟨first, -, rfl⟩ := List.mem_map.mp one
      obtain ⟨second, -, same⟩ := List.mem_map.mp other
      exact different (List.cons.inj same).1.symm

/-! ### The elements chains end at -/

variable [DecidableEq Element] {start element : Element}

theorem mem_ends_iff :
    element ∈ ends below start kinds ↔ selected below start kinds element = true := by
  induction kinds generalizing start with
  | nil =>
    unfold ends selected
    rw [List.mem_singleton, decide_eq_true_iff]
  | cons kind kinds inductionHypothesis =>
    unfold ends selected
    simp only [List.mem_flatMap, List.mem_filter, List.any_eq_true, Bool.and_eq_true,
      inductionHypothesis, and_assoc]

variable {kind : Element → Bool}

/-- What is selected from an element is below it. -/
theorem mem_below_of_selected (laid : ∀ element, Laid below (below element))
    (found : selected below start (kind :: kinds) element = true) : element ∈ below start := by
  induction kinds generalizing start kind with
  | nil =>
    obtain ⟨between, inside, here⟩ := List.any_eq_true.mp found
    obtain ⟨-, same⟩ := Bool.and_eq_true_iff.mp here
    rwa [of_decide_eq_true same]
  | cons second kinds inductionHypothesis =>
    obtain ⟨between, inside, here⟩ := List.any_eq_true.mp found
    obtain ⟨-, later⟩ := Bool.and_eq_true_iff.mp here
    exact (laid start).subset inside (inductionHypothesis later)

/-- What is selected from below an element is selected from the element. -/
theorem selected_of_mem_below (laid : ∀ element, Laid below (below element))
    {start between element : Element} (inside : between ∈ below start)
    (found : selected below between (kind :: kinds) element = true) :
    selected below start (kind :: kinds) element = true := by
  obtain ⟨first, firstInside, here⟩ := List.any_eq_true.mp found
  exact List.any_eq_true.mpr ⟨first, (laid start).subset inside firstInside, here⟩

/-! ### The first chains -/

/-- The ends of the chains whose first step goes to one of some elements. -/
def endsFrom (below : Element → List Element) (kind : Element → Bool)
    (kinds : List (Element → Bool)) (elements : List Element) : List Element :=
  (elements.filter kind).flatMap fun element => ends below element kinds

/-- The elements of a list at which such a chain ends. -/
def selectedFrom (below : Element → List Element) (kind : Element → Bool)
    (kinds : List (Element → Bool)) (elements : List Element) : List Element :=
  elements.filter fun element => elements.any fun first =>
    kind first && selected below first kinds element

omit [DecidableEq Element] in
theorem endsFrom_append (kind : Element → Bool) (kinds : List (Element → Bool))
    (first second : List Element) : endsFrom below kind kinds (first ++ second) =
      endsFrom below kind kinds first ++ endsFrom below kind kinds second := by
  unfold endsFrom
  rw [List.filter_append, List.flatMap_append]

theorem mem_of_mem_endsFrom (member : element ∈ endsFrom below kind kinds elements) :
    ∃ first ∈ elements, kind first = true ∧ selected below first kinds element = true := by
  obtain ⟨first, among, inside⟩ := List.mem_flatMap.mp member
  obtain ⟨here, fits⟩ := List.mem_filter.mp among
  exact ⟨first, here, fits, mem_ends_iff.mp inside⟩

variable (laid : ∀ element, Laid below (below element)) {kind second : Element → Bool}
  {kinds : List (Element → Bool)}

include laid

/-- An element comes before those below it, so it is not selected from them. -/
theorem selectedFrom_cons
    (here : Laid below (element :: rest)) (distinct : (element :: rest).Nodup) :
    selectedFrom below kind (second :: kinds) (element :: rest) =
      rest.filter fun other => (element :: rest).any fun first =>
        kind first && selected below first (second :: kinds) other := by
  unfold selectedFrom
  rw [List.filter_cons, if_neg]
  intro found
  obtain ⟨first, inside, fits⟩ := List.any_eq_true.mp found
  have lower := mem_below_of_selected laid (Bool.and_eq_true_iff.mp fits).2
  refine (List.nodup_cons.mp distinct).1 ?_
  rcases List.mem_cons.mp inside with rfl | later
  · exact here.head.subset lower
  · exact here.tail.subset later lower

/-- The elements selected from an element and from what follows it. -/
theorem selectedFrom_cons_append {after : List Element}
    (here : Laid below (element :: (below element ++ after)))
    (distinct : (element :: (below element ++ after)).Nodup) (fits : kind element = true) :
    selectedFrom below kind (second :: kinds) (element :: (below element ++ after)) =
      (below element).filter (selected below element (second :: kinds)) ++
        selectedFrom below kind (second :: kinds) after := by
  have apart := List.disjoint_of_nodup_append (List.nodup_cons.mp distinct).2
  have afterLaid : Laid below after := here.tail.suffix
  rw [selectedFrom_cons laid here distinct, List.filter_append]
  refine congrArg₂ (· ++ ·) ?_ ?_
  · refine List.filter_congr fun other inside => ?_
    rw [Bool.eq_iff_iff]
    constructor
    · intro found
      obtain ⟨first, member, both⟩ := List.any_eq_true.mp found
      have later := (Bool.and_eq_true_iff.mp both).2
      rcases List.mem_cons.mp member with rfl | among
      · exact later
      rcases List.mem_append.mp among with lower | behind
      · exact selected_of_mem_below laid lower later
      · exact absurd (afterLaid.subset behind (mem_below_of_selected laid later))
          (apart inside)
    · exact fun found => List.any_eq_true.mpr ⟨element, List.mem_cons_self,
        Bool.and_eq_true_iff.mpr ⟨fits, found⟩⟩
  · refine List.filter_congr fun other inside => ?_
    rw [Bool.eq_iff_iff]
    constructor
    · intro found
      obtain ⟨first, member, both⟩ := List.any_eq_true.mp found
      have lower := mem_below_of_selected laid (Bool.and_eq_true_iff.mp both).2
      rcases List.mem_cons.mp member with rfl | among
      · exact absurd inside (apart lower)
      rcases List.mem_append.mp among with higher | behind
      · exact absurd inside (apart ((laid element).subset higher lower))
      · exact List.any_eq_true.mpr ⟨first, behind, both⟩
    · intro found
      obtain ⟨first, member, both⟩ := List.any_eq_true.mp found
      exact List.any_eq_true.mpr ⟨first, List.mem_cons_of_mem _ (List.mem_append_right _ member),
        both⟩

/-- When no end is repeated, the first chains end at the first elements that are selected. -/
theorem take_endsFrom
    (single : ∀ start, (below start).Nodup → ∀ count,
      ((ends below start (second :: kinds)).take count).Nodup →
        (ends below start (second :: kinds)).take count =
          ((below start).filter (selected below start (second :: kinds))).take count)
    (here : Laid below elements) (distinct : elements.Nodup)
    {count : Nat} (once : ((endsFrom below kind (second :: kinds) elements).take count).Nodup) :
    (endsFrom below kind (second :: kinds) elements).take count =
      (selectedFrom below kind (second :: kinds) elements).take count := by
  induction bound : elements.length using Nat.strongRecOn generalizing elements count with
  | _ length inductionHypothesis =>
    cases elements with
    | nil => rfl
    | cons element rest =>
      subst bound
      by_cases fits : kind element = true
      · obtain ⟨after, rfl⟩ := here.head
        have lowerDistinct : (below element).Nodup :=
          (List.nodup_cons.mp distinct).2.sublist (List.sublist_append_left _ _)
        have afterDistinct : after.Nodup :=
          (List.nodup_cons.mp distinct).2.sublist (List.sublist_append_right _ _)
        have afterLaid : Laid below after := here.tail.suffix
        have split : endsFrom below kind (second :: kinds) (element :: (below element ++ after)) =
            ends below element (second :: kinds) ++
              (endsFrom below kind (second :: kinds) (below element) ++
                endsFrom below kind (second :: kinds) after) := by
          rw [← endsFrom_append]
          unfold endsFrom
          rw [List.filter_cons, if_pos fits, List.flatMap_cons]
        rw [split] at once ⊢
        rw [selectedFrom_cons_append laid here distinct fits]
        have first := single element lowerDistinct count
        by_cases small : count ≤ (ends below element (second :: kinds)).length
        · rw [List.take_append_of_le_length small] at once ⊢
          have same := first once
          have lengths := congrArg List.length same
          rw [List.length_take, List.length_take] at lengths
          rw [same, List.take_append_of_le_length (by omega)]
        · have large := Nat.le_of_lt (not_le.mp small)
          rw [List.take_append, List.take_of_length_le large] at once ⊢
          rw [List.take_of_length_le large] at first
          obtain ⟨endsDistinct, laterDistinct, apart⟩ := List.nodup_append'.mp once
          have same := first endsDistinct
          have lengths := congrArg List.length same
          rw [List.length_take] at lengths
          rw [List.take_of_length_le (by omega)] at same
          -- what is below the element would be found again, within the limit
          have none : endsFrom below kind (second :: kinds) (below element) = [] := by
            cases again : endsFrom below kind (second :: kinds) (below element) with
            | nil => rfl
            | cons found others =>
              exfalso
              obtain ⟨between, lower, -, later⟩ := mem_of_mem_endsFrom
                (again ▸ List.mem_cons_self : found ∈ endsFrom below kind (second :: kinds)
                  (below element))
              have found' := selected_of_mem_below laid lower later
              refine apart (mem_ends_iff.mpr found') ?_
              rw [again, List.cons_append]
              exact List.mem_take_iff_getElem.mpr ⟨0, by simp; omega, rfl⟩
          rw [none, List.nil_append] at laterDistinct ⊢
          rw [List.take_append, ← same, List.take_of_length_le large]
          refine congrArg _ ?_
          exact inductionHypothesis after.length
            (by rw [List.length_cons, List.length_append]; omega) afterLaid afterDistinct
            laterDistinct rfl
      · have skipped : endsFrom below kind (second :: kinds) (element :: rest) =
            endsFrom below kind (second :: kinds) rest := by
          unfold endsFrom
          rw [List.filter_cons, if_neg fits]
        have same : selectedFrom below kind (second :: kinds) (element :: rest) =
            selectedFrom below kind (second :: kinds) rest := by
          rw [selectedFrom_cons laid here distinct]
          unfold selectedFrom
          refine List.filter_congr fun other _ => ?_
          rw [List.any_cons, Bool.eq_false_iff.mpr fits, Bool.false_and, Bool.false_or]
        rw [skipped] at once ⊢
        rw [same]
        exact inductionHypothesis rest.length (Nat.lt_succ_self _) here.tail
          (List.nodup_cons.mp distinct).2 once rfl

omit laid in
theorem ends_singleton (start : Element) (kind : Element → Bool) :
    ends below start [kind] = (below start).filter (selected below start [kind]) := by
  have every (elements : List Element) :
      (elements.filter kind).flatMap (fun element => [element]) = elements.filter kind :=
    List.flatMap_singleton' _
  unfold ends
  simp only [ends]
  rw [every]
  refine List.filter_congr fun element member => ?_
  rw [Bool.eq_iff_iff]
  constructor
  · exact fun fits => List.any_eq_true.mpr ⟨element, member,
      Bool.and_eq_true_iff.mpr ⟨fits, decide_eq_true rfl⟩⟩
  · intro found
    obtain ⟨other, -, both⟩ := List.any_eq_true.mp found
    obtain ⟨fits, same⟩ := Bool.and_eq_true_iff.mp both
    rwa [of_decide_eq_true same]

theorem take_ends (distinct : (below start).Nodup) (kind : Element → Bool)
    (kinds : List (Element → Bool)) {count : Nat}
    (once : ((ends below start (kind :: kinds)).take count).Nodup) :
    (ends below start (kind :: kinds)).take count =
      ((below start).filter (selected below start (kind :: kinds))).take count := by
  induction kinds generalizing start kind count with
  | nil => rw [ends_singleton]
  | cons second kinds inductionHypothesis =>
    exact take_endsFrom laid (fun other lower count repeated =>
      inductionHypothesis lower second repeated) (laid start) distinct once

/-! ### A search with a limit -/

omit laid

/-- One step of the search: the first elements of a kind below the elements found so far. -/
def follow (below : Element → List Element) (limit : Nat) (found : List Element)
    (kind : Element → Bool) : List Element :=
  (found.flatMap fun element => (below element).filter kind).take limit

/-- A chain whose every beginning is among the first chains of its length. -/
def Reached (below : Element → List Element) (limit : Nat) (start : Element)
    (kinds : List (Element → Bool)) (chain : List Element) : Prop :=
  ∀ count < kinds.length, chain.take count ∈ (chains below start (kinds.take count)).take limit

instance (limit : Nat) (start : Element) (kinds : List (Element → Bool)) :
    DecidablePred (Reached below limit start kinds) := fun chain =>
  inferInstanceAs (Decidable (∀ count < kinds.length,
    chain.take count ∈ (chains below start (kinds.take count)).take limit))

/-- The first chains that are reached. -/
def reachedChains (below : Element → List Element) (limit : Nat) (start : Element)
    (kinds : List (Element → Bool)) : List (List Element) :=
  ((chains below start kinds).filter fun chain => Reached below limit start kinds chain).take limit

theorem filter_take_of_nodup (distinct : elements.Nodup) (first second : Nat) :
    (elements.take first).filter (fun element => element ∈ elements.take second) =
      (elements.take first).take second := by
  rw [List.take_take]
  by_cases shorter : first ≤ second
  · rw [min_eq_right shorter, List.filter_eq_self]
    exact fun element member => decide_eq_true
      ((List.take_prefix_take_left shorter).subset member)
  · have split : elements.take first = elements.take second ++
        (elements.take first).drop second := by
      conv_lhs => rw [← List.take_append_drop second (elements.take first), List.take_take,
        min_eq_left (Nat.le_of_lt (not_le.mp shorter))]
    have distinctFirst := distinct.sublist (List.take_sublist first elements)
    rw [split] at distinctFirst
    have apart := List.disjoint_of_nodup_append distinctFirst
    rw [min_eq_left (Nat.le_of_lt (not_le.mp shorter))]
    conv_lhs => rw [split, List.filter_append]
    rw [List.filter_eq_self.mpr fun element member => decide_eq_true member,
      List.filter_eq_nil_iff.mpr fun element member inside =>
        apart (of_decide_eq_true inside) member, List.append_nil]

omit [DecidableEq Element] in
theorem reached_append_singleton {limit : Nat}
    {chain : List Element} (member : chain ∈ chains below start kinds) :
    Reached below limit start (kinds ++ [kind]) (chain ++ [element]) ↔
      Reached below limit start kinds chain ∧ chain ∈ (chains below start kinds).take limit := by
  have length := length_of_mem_chains member
  have early {count : Nat} (small : count ≤ kinds.length) :
      (chain ++ [element]).take count = chain.take count ∧
        (kinds ++ [kind]).take count = kinds.take count :=
    ⟨List.take_append_of_le_length (length ▸ small), List.take_append_of_le_length small⟩
  constructor
  · intro reached
    constructor
    · intro count small
      have here := reached count (by rw [List.length_append]; omega)
      rwa [(early small.le).1, (early small.le).2] at here
    · have here := reached kinds.length (by rw [List.length_append]; exact Nat.lt_succ_self _)
      rwa [(early le_rfl).1, (early le_rfl).2, List.take_length, ← length,
        List.take_length] at here
  · rintro ⟨reached, first⟩ count small
    rw [List.length_append] at small
    have bound : count ≤ kinds.length := Nat.le_of_lt_succ small
    rw [(early bound).1, (early bound).2]
    rcases Nat.lt_or_eq_of_le bound with shorter | rfl
    · exact reached count shorter
    · rwa [List.take_length, ← length, List.take_length]

/-- The chains of one more step that are reached extend the first chains that are reached. -/
theorem filter_reached_append_singleton {limit size : Nat}
    (kind : Element → Bool) (distinct : (chains below start kinds).Nodup)
    (initial : (chains below start kinds).filter (fun chain => Reached below limit start kinds chain) =
      (chains below start kinds).take size) :
    (chains below start (kinds ++ [kind])).filter
        (fun chain => Reached below limit start (kinds ++ [kind]) chain) =
      (reachedChains below limit start kinds).flatMap fun chain =>
        ((below (endOf start chain)).filter kind).map fun element => chain ++ [element] := by
  have kept : reachedChains below limit start kinds =
      (chains below start kinds).filter fun chain =>
        Reached below limit start kinds chain ∧ chain ∈ (chains below start kinds).take limit := by
    unfold reachedChains
    rw [initial, ← filter_take_of_nodup distinct, ← initial, List.filter_filter]
    refine List.filter_congr fun chain _ => ?_
    rw [Bool.eq_iff_iff]
    simp only [Bool.and_eq_true, decide_eq_true_eq, and_comm]
  rw [chains_append_singleton, kept]
  have general (list : List (List Element)) (inside : list ⊆ chains below start kinds) :
      (list.flatMap fun chain => ((below (endOf start chain)).filter kind).map fun element =>
        chain ++ [element]).filter
          (fun chain => Reached below limit start (kinds ++ [kind]) chain) =
      (list.filter fun chain => Reached below limit start kinds chain ∧
        chain ∈ (chains below start kinds).take limit).flatMap fun chain =>
          ((below (endOf start chain)).filter kind).map fun element => chain ++ [element] := by
    induction list with
    | nil => rfl
    | cons chain rest inductionHypothesis =>
      obtain ⟨here, later⟩ := List.cons_subset.mp inside
      rw [List.flatMap_cons, List.filter_append, List.filter_cons, inductionHypothesis later]
      by_cases reached : Reached below limit start kinds chain ∧
          chain ∈ (chains below start kinds).take limit
      · rw [if_pos (decide_eq_true reached), List.flatMap_cons, List.filter_eq_self.mpr]
        intro extended member
        obtain ⟨element, -, rfl⟩ := List.mem_map.mp member
        exact decide_eq_true ((reached_append_singleton here).mpr reached)
      · rw [if_neg (by rwa [decide_eq_true_iff]), List.filter_eq_nil_iff.mpr, List.nil_append]
        intro extended member found
        obtain ⟨element, -, rfl⟩ := List.mem_map.mp member
        exact reached ((reached_append_singleton here).mp (of_decide_eq_true found))
  exact general _ (List.Subset.refl _)

/-- The chains that are reached come before those that are not. -/
theorem exists_filter_reached (laid : ∀ element, Laid below (below element))
    (distinct : (below start).Nodup) (limit : Nat) (kinds : List (Element → Bool)) :
    ∃ size, (chains below start kinds).filter (fun chain => Reached below limit start kinds chain) =
      (chains below start kinds).take size := by
  induction kinds using List.reverseRecOn with
  | nil =>
    refine ⟨1, List.filter_eq_self.mpr fun chain _ => decide_eq_true ?_⟩
    exact fun count none => absurd none (Nat.not_lt_zero count)
  | append_singleton kinds kind inductionHypothesis =>
    obtain ⟨size, initial⟩ := inductionHypothesis
    refine ⟨_, List.prefix_iff_eq_take.mp ?_⟩
    rw [filter_reached_append_singleton kind (nodup_chains laid distinct kinds) initial,
      chains_append_singleton]
    refine List.IsPrefix.flatMap ((List.take_prefix _ _).trans ?_) _
    rw [initial]
    exact List.take_prefix _ _

/-- The search finds the ends of the first chains that are reached. -/
theorem foldl_follow (laid : ∀ element, Laid below (below element))
    (distinct : (below start).Nodup) {limit : Nat} (some : 0 < limit)
    (kinds : List (Element → Bool)) :
    kinds.foldl (follow below limit) [start] =
      (reachedChains below limit start kinds).map (endOf start) := by
  induction kinds using List.reverseRecOn with
  | nil =>
    have every : (chains below start []).filter
        (fun chain => Reached below limit start [] chain) = [[]] :=
      List.filter_eq_self.mpr fun chain _ => decide_eq_true fun count none =>
        absurd none (Nat.not_lt_zero count)
    unfold reachedChains
    rw [every, List.take_of_length_le (by exact some)]
    rfl
  | append_singleton kinds kind inductionHypothesis =>
    obtain ⟨size, initial⟩ := exists_filter_reached laid distinct limit kinds
    rw [List.foldl_append, inductionHypothesis, List.foldl_cons, List.foldl_nil]
    conv_rhs => unfold reachedChains
    rw [filter_reached_append_singleton kind (nodup_chains laid distinct kinds) initial]
    unfold follow
    rw [List.flatMap_map, List.map_take, List.map_flatMap]
    refine congrArg _ (List.flatMap_congr fun chain _ => ?_)
    rw [List.map_map]
    exact ((List.map_congr_left fun element _ =>
      endOf_append_singleton start element chain).trans (List.map_id _)).symm

/-- The search leaves nothing out and finds nothing twice. -/
structure Whole (below : Element → List Element) (limit : Nat) (start : Element)
    (kinds : List (Element → Bool)) : Prop where
  once : ((reachedChains below limit start kinds).map (endOf start)).Nodup
  every : (reachedChains below limit start kinds).length = limit ∨
    ∀ element, selected below start kinds element = true →
      ∃ chain ∈ reachedChains below limit start kinds, endOf start chain = element

/-- The search finds the first selected elements in document order exactly when it is whole. -/
theorem foldl_follow_eq_iff (laid : ∀ element, Laid below (below element))
    (distinct : (below start).Nodup) {limit : Nat} (some : 0 < limit) (kind : Element → Bool)
    (kinds : List (Element → Bool)) :
    (kind :: kinds).foldl (follow below limit) [start] =
        ((below start).filter (selected below start (kind :: kinds))).take limit ↔
      Whole below limit start (kind :: kinds) := by
  rw [foldl_follow laid distinct some]
  have few : (reachedChains below limit start (kind :: kinds)).length ≤ limit :=
    List.length_take_le _ _
  have selectedDistinct : ((below start).filter
      (selected below start (kind :: kinds))).Nodup := distinct.filter _
  constructor
  · intro same
    refine ⟨same ▸ selectedDistinct.sublist (List.take_sublist _ _), ?_⟩
    by_cases full : (reachedChains below limit start (kind :: kinds)).length = limit
    · exact .inl full
    refine .inr fun element found => ?_
    have lengths := congrArg List.length same
    rw [List.length_map, List.length_take] at lengths
    rw [List.take_of_length_le (by omega)] at same
    have member : element ∈ (reachedChains below limit start (kind :: kinds)).map
        (endOf start) := by
      rw [same]
      exact List.mem_filter.mpr ⟨mem_below_of_selected laid found, found⟩
    exact List.mem_map.mp member
  · rintro ⟨once, every⟩
    obtain ⟨size, initial⟩ := exists_filter_reached laid distinct limit (kind :: kinds)
    have first : (reachedChains below limit start (kind :: kinds)).map (endOf start) =
        (ends below start (kind :: kinds)).take (min limit size) := by
      unfold reachedChains
      rw [initial, List.take_take, List.map_take, map_endOf_chains]
    have same := take_ends laid distinct kind kinds (first ▸ once)
    rw [← first] at same
    have lengths := congrArg List.length same
    rw [List.length_map, List.length_take] at lengths
    rcases every with full | whole
    · rw [same]
      have long : limit ≤ min limit size := by omega
      rw [le_antisymm (min_le_left _ _) long]
    · have inside : (below start).filter (selected below start (kind :: kinds)) ⊆
          (reachedChains below limit start (kind :: kinds)).map (endOf start) :=
        fun element member => List.mem_map.mpr (whole element (List.mem_filter.mp member).2)
      have long := (selectedDistinct.subperm inside).length_le
      rw [List.length_map] at long
      rw [same, List.take_of_length_le (by omega), List.take_of_length_le (by omega)]

end Outline

end CareerOS
