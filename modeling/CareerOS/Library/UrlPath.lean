/-
This file is what `posixpath.normpath` makes of a path that starts with a slash: one or two
slashes and components that are no dots. Such a path is its own normal form.
-/

import CareerOS.Library.Split
import CareerOS.Library.Url

namespace CareerOS

namespace Url

/-- A component that `normpath` keeps. -/
structure PlainComponent (component : List Char) : Prop where
  solid : component ≠ []
  noDot : component ≠ ['.']
  noDots : component ≠ ['.', '.']
  noSlash : '/' ∉ component

/-- Slashes, and components between them. -/
def rootedPath (slashes : Nat) (components : List (List Char)) : List Char :=
  List.replicate slashes '/' ++ ['/'].intercalate components

/-! ### Components -/

theorem mem_normComponent {kept : List (List Char)} {component other : List Char}
    (plain : ∀ part ∈ kept, PlainComponent part) (inside : '/' ∉ component)
    (member : other ∈ normComponent true kept component) :
    PlainComponent other ∧ (other ∈ kept ∨ other = component) := by
  unfold normComponent at member
  split at member
  · exact ⟨plain other member, .inl member⟩
  · rename_i counts
    obtain ⟨solid, noDot⟩ := not_or.mp counts
    split at member
    · rename_i stays
      rcases List.mem_cons.mp member with rfl | earlier
      · refine ⟨⟨solid, noDot, ?_, inside⟩, .inr rfl⟩
        rcases stays with differs | ⟨unrooted, -⟩ | behind
        · exact differs
        · exact absurd rfl unrooted
        · exact absurd rfl (plain _ (List.mem_of_head? behind)).noDots
      · exact ⟨plain other earlier, .inl earlier⟩
    · have earlier := List.mem_of_mem_tail member
      exact ⟨plain other earlier, .inl earlier⟩

/-- What is kept of the components of a rooted path. -/
theorem mem_foldl_normComponent {components kept : List (List Char)} {other : List Char}
    (plain : ∀ part ∈ kept, PlainComponent part) (inside : ∀ part ∈ components, '/' ∉ part)
    (member : other ∈ components.foldl (normComponent true) kept) :
    PlainComponent other ∧ (other ∈ kept ∨ other ∈ components) := by
  induction components generalizing kept with
  | nil => exact ⟨plain other member, .inl member⟩
  | cons first rest inductionHypothesis =>
    obtain ⟨here, later⟩ := List.forall_mem_cons.mp inside
    obtain ⟨shown, source⟩ := inductionHypothesis
      (fun part kept => (mem_normComponent plain here kept).1) later member
    refine ⟨shown, ?_⟩
    rcases source with early | late
    · rcases (mem_normComponent plain here early).2 with before | rfl
      · exact .inl before
      · exact .inr List.mem_cons_self
    · exact .inr (List.mem_cons_of_mem _ late)

theorem normComponent_plain {component : List Char} (plain : PlainComponent component)
    (kept : List (List Char)) : normComponent true kept component = component :: kept := by
  unfold normComponent
  rw [if_neg (not_or.mpr ⟨plain.solid, plain.noDot⟩), if_pos (.inl plain.noDots)]

theorem normComponent_nil (kept : List (List Char)) : normComponent true kept [] = kept :=
  if_pos (.inl rfl)

theorem foldl_normComponent_plain {components : List (List Char)}
    (plain : ∀ part ∈ components, PlainComponent part) (kept : List (List Char)) :
    components.foldl (normComponent true) kept = components.reverse ++ kept := by
  induction components generalizing kept with
  | nil => rfl
  | cons first rest inductionHypothesis =>
    obtain ⟨here, later⟩ := List.forall_mem_cons.mp plain
    rw [List.foldl_cons, normComponent_plain here, inductionHypothesis later, List.reverse_cons,
      List.append_assoc, List.singleton_append]

/-! ### Rooted paths -/

/-- The slashes `normpath` keeps of a path that starts with one. -/
def leadingSlashes (path : List Char) : Nat :=
  if path.take 2 = ['/', '/'] ∧ path.take 3 ≠ ['/', '/', '/'] then 2 else 1

theorem leadingSlashes_cases (path : List Char) :
    leadingSlashes path = 1 ∨ leadingSlashes path = 2 := by
  unfold leadingSlashes
  split
  · exact .inr rfl
  · exact .inl rfl

theorem normpath_of_rooted {path : List Char} (rooted : path.head? = some '/') :
    normpath path = rootedPath (leadingSlashes path)
      ((path.splitOn '/').foldl (normComponent true) []).reverse := by
  obtain ⟨rest, rfl⟩ : ∃ rest, path = '/' :: rest := by
    obtain ⟨rest, same⟩ := List.head?_eq_some_iff.mp rooted
    exact ⟨rest, same⟩
  have shape : ∀ slashes, slashes = 1 ∨ slashes = 2 → ∀ text : List Char,
      List.replicate slashes '/' ++ text ≠ [] := by
    rintro slashes (rfl | rfl) text <;> exact List.cons_ne_nil _ _
  have counted : (if ('/' :: rest).take 1 ≠ ['/'] then 0
      else if ('/' :: rest).take 2 = ['/', '/'] ∧ ('/' :: rest).take 3 ≠ ['/', '/', '/'] then 2
      else 1) = leadingSlashes ('/' :: rest) := if_neg (not_not.mpr rfl)
  have many : decide (leadingSlashes ('/' :: rest) ≠ 0) = true := by
    rcases leadingSlashes_cases ('/' :: rest) with one | two
    · rw [one]
      rfl
    · rw [two]
      rfl
  unfold normpath
  simp only [counted, many]
  exact if_neg (shape _ (leadingSlashes_cases _) _)

/-- A rooted path in normal form: its slashes, and components that stay. -/
structure NormalPath (path : List Char) (slashes : Nat) (components : List (List Char)) :
    Prop where
  made : path = rootedPath slashes components
  few : slashes = 1 ∨ slashes = 2
  plain : ∀ part ∈ components, PlainComponent part

theorem normalPath_normpath {path : List Char} (rooted : path.head? = some '/') :
    ∃ slashes components, NormalPath (normpath path) slashes components ∧
      ∀ part ∈ components, part ⊆ path := by
  have known : ∀ part ∈ (path.splitOn '/').foldl (normComponent true) [],
      PlainComponent part ∧ part ∈ path.splitOn '/' := by
    intro part member
    have none : ∀ part ∈ ([] : List (List Char)), PlainComponent part := nofun
    obtain ⟨plain, source⟩ := mem_foldl_normComponent none
      (fun part inside => (mem_splitOn inside).1) member
    exact ⟨plain, source.resolve_left List.not_mem_nil⟩
  refine ⟨_, _, ⟨normpath_of_rooted rooted, leadingSlashes_cases path, ?_⟩, ?_⟩
  · exact fun part member => (known part (List.mem_reverse.mp member)).1
  · exact fun part member => (mem_splitOn (known part (List.mem_reverse.mp member)).2).2

section

variable {path : List Char} {slashes : Nat} {components : List (List Char)}

theorem NormalPath.rooted (normal : NormalPath path slashes components) :
    path.head? = some '/' := by
  obtain ⟨rfl, rfl | rfl, -⟩ := normal <;> rfl

/-- The slash a path may end in is no component. -/
theorem foldl_splitOn_slashes (path : List Char) (kept : List (List Char)) :
    (('/' :: path).splitOn '/').foldl (normComponent true) kept =
      (path.splitOn '/').foldl (normComponent true) kept := by
  rw [← List.nil_append ('/' :: path),
    List.splitOn_append_cons_self_of_not_mem List.not_mem_nil, List.foldl_cons,
    normComponent_nil]

theorem foldl_splitOn_slash (path : List Char) (kept : List (List Char)) :
    ((path ++ ['/']).splitOn '/').foldl (normComponent true) kept =
      (path.splitOn '/').foldl (normComponent true) kept := by
  rw [List.splitOn_append_cons_self, List.splitOn_nil, List.foldl_append, List.foldl_cons,
    normComponent_nil, List.foldl_nil]

theorem NormalPath.components_eq (normal : NormalPath path slashes components) :
    ((path.splitOn '/').foldl (normComponent true) []).reverse = components := by
  obtain ⟨rfl, few, plain⟩ := normal
  have bare : ((['/'].intercalate components).splitOn '/').foldl (normComponent true) [] =
      components.reverse := by
    cases components with
    | nil =>
      rw [List.intercalate_nil, List.splitOn_nil, List.foldl_cons, normComponent_nil]
      rfl
    | cons first rest =>
      rw [List.splitOn_intercalate '/' (fun part member => (plain part member).noSlash)
        (List.cons_ne_nil _ _), foldl_normComponent_plain plain, List.append_nil]
  unfold rootedPath
  rcases few with rfl | rfl
  · rw [List.replicate_one, List.singleton_append, foldl_splitOn_slashes, bare,
      List.reverse_reverse]
  · rw [List.replicate_succ, List.replicate_one, List.cons_append, List.singleton_append,
      foldl_splitOn_slashes, foldl_splitOn_slashes, bare, List.reverse_reverse]

/-- A component does not start with a slash. -/
theorem head_intercalate_ne {components : List (List Char)}
    (plain : ∀ part ∈ components, PlainComponent part) :
    (['/'].intercalate components).head? ≠ some '/' := by
  cases components with
  | nil => exact nofun
  | cons first rest =>
    have here := plain first List.mem_cons_self
    rw [head?_intercalate '/' here.solid]
    exact fun slash => here.noSlash (List.mem_of_head? slash)

theorem leadingSlashes_rootedPath (few : slashes = 1 ∨ slashes = 2) {rest : List Char}
    (plain : rest.head? ≠ some '/') :
    leadingSlashes (List.replicate slashes '/' ++ rest) = slashes := by
  have first : rest.take 1 ≠ ['/'] := by
    cases rest with
    | nil => exact nofun
    | cons letter later => exact fun slash => plain (congrArg List.head? slash)
  rcases few with rfl | rfl
  · refine if_neg fun both => first ?_
    exact (List.cons.inj both.1).2
  · refine if_pos ⟨rfl, fun slash => first ?_⟩
    exact (List.cons.inj (List.cons.inj slash).2).2

/-- A normal path is its own normal form. -/
theorem NormalPath.normpath_eq (normal : NormalPath path slashes components) :
    normpath path = path := by
  rw [normpath_of_rooted normal.rooted, normal.components_eq]
  conv_rhs => rw [normal.made]
  congr 1
  rw [normal.made]
  exact leadingSlashes_rootedPath normal.few (head_intercalate_ne normal.plain)

/-- A slash behind the components is dropped. -/
theorem NormalPath.normpath_slash (normal : NormalPath path slashes components)
    (some : components ≠ []) : normpath (path ++ ['/']) = path := by
  have rooted : (path ++ ['/']).head? = Option.some '/' := by
    rw [List.head?_append, normal.rooted]
    rfl
  rw [normpath_of_rooted rooted, foldl_splitOn_slash, normal.components_eq]
  conv_rhs => rw [normal.made]
  congr 1
  rw [normal.made]
  unfold rootedPath
  rw [List.append_assoc]
  refine leadingSlashes_rootedPath normal.few ?_
  have full : ['/'].intercalate components ≠ [] := by
    intro empty
    obtain ⟨first, rest, rfl⟩ := List.exists_cons_of_ne_nil some
    have here := (normal.plain first List.mem_cons_self).solid
    have head := head?_intercalate '/' here rest
    rw [empty] at head
    exact here (List.head?_eq_none_iff.mp head.symm)
  rw [List.head?_append_of_ne_nil _ full]
  exact head_intercalate_ne normal.plain

/-- A normal path with components does not end in a slash. -/
theorem NormalPath.last_ne (normal : NormalPath path slashes components)
    (some : components ≠ []) : path.getLast? ≠ Option.some '/' := by
  have solid : ∀ part ∈ components, part ≠ [] := fun part member => (normal.plain part member).solid
  have last := getLast?_intercalate '/' solid some
  have ending := normal.plain _ (List.getLast_mem some)
  have full : ['/'].intercalate components ≠ [] := by
    intro empty
    rw [empty, List.getLast?_nil] at last
    exact ending.solid (List.getLast?_eq_none_iff.mp last.symm)
  rw [normal.made]
  unfold rootedPath
  rw [List.getLast?_append_of_ne_nil _ full, last]
  exact fun slash => ending.noSlash (List.mem_of_getLast? slash)

theorem NormalPath.last_of_nil (normal : NormalPath path slashes []) :
    path.getLast? = some '/' := by
  obtain ⟨rfl, rfl | rfl, -⟩ := normal <;> rfl

/-! ### Lengths -/

/-- The letters of components, each with the slash in front of it. -/
def extent (components : List (List Char)) : Nat :=
  (components.map fun component => component.length + 1).sum

theorem length_intercalate (components : List (List Char)) :
    (['/'].intercalate components).length = extent components - 1 := by
  cases components with
  | nil => rfl
  | cons first rest => exact Nat.eq_sub_of_add_eq (Text.length_intercalate '/' (List.cons_ne_nil _ _))

theorem extent_splitOn (path : List Char) : extent (path.splitOn '/') = path.length + 1 := by
  have whole : (['/'].intercalate (path.splitOn '/')).length = path.length :=
    congrArg List.length (List.intercalate_splitOn '/')
  rw [length_intercalate] at whole
  have some : 1 ≤ extent (path.splitOn '/') := by
    obtain ⟨first, rest, split⟩ := List.exists_cons_of_ne_nil (List.splitOn_ne_nil '/' path)
    unfold extent
    rw [split, List.map_cons, List.sum_cons]
    omega
  omega

theorem extent_normComponent_le (kept : List (List Char)) (component : List Char) :
    extent (normComponent true kept component) ≤ extent kept + (component.length + 1) := by
  unfold normComponent
  split
  · exact Nat.le_add_right _ _
  · split
    · unfold extent
      rw [List.map_cons, List.sum_cons]
      omega
    · cases kept with
      | nil => exact Nat.zero_le _
      | cons first rest =>
        unfold extent
        rw [List.tail_cons, List.map_cons, List.sum_cons]
        omega

theorem extent_foldl_le (components kept : List (List Char)) :
    extent (components.foldl (normComponent true) kept) ≤ extent kept + extent components := by
  induction components generalizing kept with
  | nil => exact Nat.le_add_right _ _
  | cons first rest inductionHypothesis =>
    have here := extent_normComponent_le kept first
    have later := inductionHypothesis (normComponent true kept first)
    have whole : extent (first :: rest) = first.length + 1 + extent rest := by
      unfold extent
      rw [List.map_cons, List.sum_cons]
    rw [List.foldl_cons]
    omega

theorem extent_reverse (components : List (List Char)) :
    extent components.reverse = extent components := by
  unfold extent
  rw [List.map_reverse, List.sum_reverse]

/-- A path that starts with a slash becomes no longer, and shorter where a slash behind its
components is dropped. -/
theorem length_normpath_le (rooted : path.head? = some '/') :
    (normpath path).length ≤ path.length ∧
      (path.getLast? = some '/' → (normpath path).getLast? ≠ some '/' →
        (normpath path).length + 1 ≤ path.length) := by
  obtain ⟨rest, split, many⟩ : ∃ rest, path = List.replicate (leadingSlashes path) '/' ++ rest ∧
      (rest = [] ∨ path.getLast? = rest.getLast?) := by
    obtain ⟨rest, rfl⟩ := List.head?_eq_some_iff.mp rooted
    unfold leadingSlashes
    split
    · rename_i two
      obtain ⟨later, rfl⟩ : ∃ later, rest = '/' :: later := by
        cases rest with
        | nil => cases two.1
        | cons letter later =>
          obtain rfl : letter = '/' := (List.cons.inj (List.cons.inj two.1).2).1
          exact ⟨later, rfl⟩
      refine ⟨later, rfl, ?_⟩
      cases later with
      | nil => exact .inl rfl
      | cons letter later => exact .inr rfl
    · refine ⟨rest, rfl, ?_⟩
      cases rest with
      | nil => exact .inl rfl
      | cons letter later => exact .inr rfl
  have folded : (path.splitOn '/').foldl (normComponent true) [] =
      (rest.splitOn '/').foldl (normComponent true) [] := by
    conv_lhs => rw [split]
    rcases leadingSlashes_cases path with one | two
    · rw [one, List.replicate_one, List.singleton_append, foldl_splitOn_slashes]
    · rw [two, List.replicate_succ, List.replicate_one, List.cons_append, List.singleton_append,
        foldl_splitOn_slashes, foldl_splitOn_slashes]
  have size : path.length = leadingSlashes path + rest.length := by
    conv_lhs => rw [split]
    rw [List.length_append, List.length_replicate]
  have made := normpath_of_rooted rooted
  rw [folded] at made
  have length : (normpath path).length = leadingSlashes path +
      (extent ((rest.splitOn '/').foldl (normComponent true) []) - 1) := by
    rw [made]
    unfold rootedPath
    rw [List.length_append, List.length_replicate, length_intercalate, extent_reverse]
  have bound := extent_foldl_le (rest.splitOn '/') []
  have empty : extent [] = 0 := rfl
  rw [extent_splitOn, empty] at bound
  refine ⟨by omega, fun ends loses => ?_⟩
  obtain ⟨slashes, components, normal, -⟩ := normalPath_normpath rooted
  rcases many with rfl | behind
  · -- Only slashes: these are kept, and the path ends in one.
    refine absurd ?_ loses
    rw [made]
    rcases leadingSlashes_cases path with one | two
    · rw [one]
      rfl
    · rw [two]
      rfl
  · rw [behind] at ends
    obtain ⟨front, rfl⟩ := List.getLast?_eq_some_iff.mp ends
    have shorter := extent_foldl_le (front.splitOn '/') []
    rw [extent_splitOn, empty] at shorter
    rw [foldl_splitOn_slash] at length
    rw [List.length_append, List.length_singleton] at size
    omega

/-- A normal path holds letters of its components, and slashes. -/
theorem NormalPath.mem (normal : NormalPath path slashes components) {letter : Char}
    (member : letter ∈ path) : letter = '/' ∨ ∃ part ∈ components, letter ∈ part := by
  rw [normal.made] at member
  unfold rootedPath at member
  rcases List.mem_append.mp member with slash | inside
  · exact .inl (List.eq_of_mem_replicate slash)
  · exact mem_intercalate inside

end

end Url

end CareerOS
