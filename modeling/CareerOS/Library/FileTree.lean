/-
This file is a tree of files and directories: what stands at every path, and what the calls of
a file system make of it. A path is the list of its names below the root, and whatever stands
at a path stands in a directory. Links are not followed: no call goes through one.
-/

import Mathlib

namespace CareerOS

/-- A path below the root. -/
abbrev TreePath := List String

/-- What stands at a path. -/
inductive TreeNode (Content : Type)
  | directory
  | file (content : Content) (mode : Nat)
  | link
  /-- A pipe, a device or a socket. -/
  | special

/-- What stands at every path. -/
structure FileTree (Content : Type) where
  node : TreePath → Option (TreeNode Content)
  /-- Every path at which something stands. -/
  names : List TreePath
  listed : ∀ path, node path ≠ none → path ∈ names
  rooted : ∀ path name, node (path ++ [name]) ≠ none → node path = some .directory

namespace FileTree

variable {Content : Type}

/-- Is it a directory? -/
def isDirectory : Option (TreeNode Content) → Bool
  | some .directory => true
  | _ => false

/-- Is it a regular file? -/
def isFile : Option (TreeNode Content) → Bool
  | some (.file _ _) => true
  | _ => false

theorem isDirectory_iff {place : Option (TreeNode Content)} :
    isDirectory place = true ↔ place = some .directory := by
  constructor
  · intro directory
    match place with
    | some .directory => rfl
  · rintro rfl
    rfl

theorem isFile_iff {place : Option (TreeNode Content)} :
    isFile place = true ↔ ∃ content mode, place = some (.file content mode) := by
  constructor
  · intro file
    match place with
    | some (.file content mode) => exact ⟨content, mode, rfl⟩
  · rintro ⟨content, mode, rfl⟩
    rfl

/-- Above whatever stands at a path there are directories. -/
theorem node_of_isPrefix (tree : FileTree Content) {above path : TreePath}
    (inside : above <+: path) (present : tree.node path ≠ none) :
    above = path ∨ tree.node above = some .directory := by
  obtain ⟨rest, rfl⟩ := inside
  induction rest using List.reverseRecOn with
  | nil => exact .inl (List.append_nil above).symm
  | append_singleton rest name inductionHypothesis =>
    rw [← List.append_assoc] at present ⊢
    have parent := tree.rooted _ _ present
    rcases inductionHypothesis (by rw [parent]; exact nofun) with here | directory
    · refine .inr ?_
      rw [← here] at parent
      exact parent
    · exact .inr directory

/-- Below what is no directory there is nothing. -/
theorem node_eq_none_of_isPrefix (tree : FileTree Content) {above path : TreePath}
    (inside : above <+: path) (absent : tree.node above = none) : tree.node path = none := by
  by_contra present
  rcases tree.node_of_isPrefix inside present with rfl | directory
  · exact present absent
  · rw [absent] at directory
    cases directory

/-! ### Making directories -/

/-- May a directory stand there, or does it already? -/
def passable : Option (TreeNode Content) → Bool
  | none | some .directory => true
  | _ => false

/-- The tree with a directory at a path and above it. -/
def withDirectories (path : TreePath) (tree : FileTree Content) : FileTree Content where
  node other := if other <+: path then some .directory else tree.node other
  names := path.inits ++ tree.names
  listed other present := by
    by_cases above : other <+: path
    · exact List.mem_append_left _ ((List.mem_inits _ _).mpr above)
    · rw [if_neg above] at present
      exact List.mem_append_right _ (tree.listed other present)
  rooted above name present := by
    by_cases inside : above <+: path
    · exact if_pos inside
    · have outside : ¬above ++ [name] <+: path := fun longer =>
        inside ((List.prefix_append above [name]).trans longer)
      rw [if_neg outside] at present
      rw [if_neg inside]
      exact tree.rooted above name present

/-- `path.mkdir(parents=True, exist_ok=True)`. -/
def makeDirectories (path : TreePath) (tree : FileTree Content) : Option (FileTree Content) :=
  if path.inits.all fun above => passable (tree.node above) then some (tree.withDirectories path)
  else none

/-- `path.mkdir(parents=True, exist_ok=False)`. -/
def makeNewDirectory (path : TreePath) (tree : FileTree Content) : Option (FileTree Content) :=
  if (tree.node path).isSome then none else tree.makeDirectories path

variable {tree after : FileTree Content} {path : TreePath}

/-- What a tree with new directories holds. -/
theorem makeDirectories_some_iff :
    tree.makeDirectories path = some after ↔
      (∀ above, above <+: path → tree.node above = none ∨ tree.node above = some .directory) ∧
        after = tree.withDirectories path := by
  have passing : ∀ place : Option (TreeNode Content),
      passable place = true ↔ place = none ∨ place = some .directory := by
    intro place
    match place with
    | none => exact ⟨fun _ => .inl rfl, fun _ => rfl⟩
    | some .directory => exact ⟨fun _ => .inr rfl, fun _ => rfl⟩
    | some (.file _ _) => exact ⟨nofun, nofun⟩
    | some .link => exact ⟨nofun, nofun⟩
    | some .special => exact ⟨nofun, nofun⟩
  have clear : (path.inits.all fun above => passable (tree.node above)) = true ↔
      ∀ above, above <+: path → tree.node above = none ∨ tree.node above = some .directory := by
    rw [List.all_eq_true]
    exact forall_congr' fun above => by rw [List.mem_inits, passing]
  unfold makeDirectories
  split
  · rename_i free
    rw [Option.some.injEq, eq_comm]
    exact ⟨fun same => ⟨clear.mp free, same⟩, fun made => made.2⟩
  · rename_i blocked
    exact ⟨nofun, fun made => absurd (clear.mpr made.1) blocked⟩

theorem node_withDirectories (path other : TreePath) (tree : FileTree Content) :
    (tree.withDirectories path).node other =
      if other <+: path then some .directory else tree.node other := rfl

/-- New directories replace no file and add none. -/
theorem file_makeDirectories
    (made : tree.makeDirectories path = some after) (other : TreePath) (content : Content)
    (mode : Nat) :
    after.node other = some (.file content mode) ↔ tree.node other = some (.file content mode) := by
  obtain ⟨clear, rfl⟩ := makeDirectories_some_iff.mp made
  rw [node_withDirectories]
  split
  · rename_i above
    rcases clear other above with absent | directory
    · rw [absent]
      exact ⟨nofun, nofun⟩
    · rw [directory]
  · exact Iff.rfl

/-! ### Writing and moving files -/

/-- The tree with a file at a path that is in a directory and is none. -/
def putFile (tree : FileTree Content) (path : TreePath) (content : Content) (mode : Nat)
    (proper : path ≠ []) (parent : tree.node path.dropLast = some .directory)
    (plain : tree.node path ≠ some .directory) : FileTree Content where
  node := Function.update tree.node path (some (.file content mode))
  names := path :: tree.names
  listed other present := by
    by_cases here : other = path
    · rw [here]
      exact List.mem_cons_self
    · rw [Function.update_of_ne here] at present
      exact List.mem_cons_of_mem _ (tree.listed other present)
  rooted above name present := by
    have directory : tree.node above = some .directory := by
      by_cases here : above ++ [name] = path
      · rw [← here, List.dropLast_concat] at parent
        exact parent
      · rw [Function.update_of_ne here] at present
        exact tree.rooted above name present
    have other : above ≠ path := by
      rintro rfl
      exact plain directory
    rw [Function.update_of_ne other, directory]

/-- A file that takes the place of whatever stands at a path, which is no directory. -/
def placeFile (path : TreePath) (content : Content) (mode : Nat) (tree : FileTree Content) :
    Option (FileTree Content) :=
  if free : path ≠ [] ∧ isDirectory (tree.node path.dropLast) = true ∧
      isDirectory (tree.node path) = false then
    some (tree.putFile path content mode free.1 (isDirectory_iff.mp free.2.1) fun directory => by
      rw [directory] at free
      exact nomatch free.2.2)
  else none

/-- A file that is opened for writing, written, and given its mode. -/
def writeFile (path : TreePath) (content : Content) (mode : Nat) (tree : FileTree Content) :
    Option (FileTree Content) :=
  match tree.node path with
  | none | some (.file _ _) => tree.placeFile path content mode
  | some _ => none

/-- The tree without a path and all that is below it. -/
def removeTree (path : TreePath) (tree : FileTree Content) : FileTree Content where
  node other := if path <+: other then none else tree.node other
  names := tree.names
  listed other present := by
    by_cases inside : path <+: other
    · rw [if_pos inside] at present
      exact absurd rfl present
    · rw [if_neg inside] at present
      exact tree.listed other present
  rooted above name present := by
    by_cases inside : path <+: above ++ [name]
    · rw [if_pos inside] at present
      exact absurd rfl present
    · have outside : ¬path <+: above := fun shorter =>
        inside (shorter.trans (List.prefix_append above [name]))
      rw [if_neg inside] at present
      rw [if_neg outside]
      exact tree.rooted above name present

/-- `os.replace(source, target)` of a regular file. -/
def moveFile (source target : TreePath) (tree : FileTree Content) : Option (FileTree Content) :=
  match tree.node source with
  | some (.file content mode) => (tree.removeTree source).placeFile target content mode
  | _ => none

variable {content : Content}

theorem placeFile_some {mode : Nat} (placed : tree.placeFile path content mode = some after) :
    (path ≠ [] ∧ tree.node path.dropLast = some .directory ∧ tree.node path ≠ some .directory) ∧
      after.node = Function.update tree.node path (some (.file content mode)) := by
  unfold placeFile at placed
  split at placed
  · rename_i free
    obtain rfl := Option.some.inj placed
    refine ⟨⟨free.1, isDirectory_iff.mp free.2.1, fun directory => ?_⟩, rfl⟩
    rw [directory] at free
    exact nomatch free.2.2
  · cases placed

theorem writeFile_some {mode : Nat} (written : tree.writeFile path content mode = some after) :
    (tree.node path = none ∨ ∃ old oldMode, tree.node path = some (.file old oldMode)) ∧
      after.node = Function.update tree.node path (some (.file content mode)) := by
  unfold writeFile at written
  split at written
  · rename_i absent
    exact ⟨.inl absent, (placeFile_some written).2⟩
  · rename_i old oldMode present
    exact ⟨.inr ⟨old, oldMode, present⟩, (placeFile_some written).2⟩
  · cases written

theorem node_removeTree (path other : TreePath) (tree : FileTree Content) :
    (tree.removeTree path).node other = if path <+: other then none else tree.node other := rfl

/-! ### Moving a directory -/

/-- The tree in which a directory stands at another path, where nothing stood. -/
def withMoved (source target : TreePath) (tree : FileTree Content)
    (apart : ¬source <+: target) (parent : tree.node target.dropLast = some .directory) :
    FileTree Content where
  node other :=
    if target <+: other then tree.node (source ++ other.drop target.length)
    else if source <+: other then none else tree.node other
  names := tree.names ++ tree.names.map fun path => target ++ path.drop source.length
  listed other here := by
    by_cases moved : target <+: other
    · rw [if_pos moved] at here
      obtain ⟨rest, rfl⟩ := moved
      rw [List.drop_left] at here
      refine List.mem_append_right _ (List.mem_map.mpr ⟨_, tree.listed _ here, ?_⟩)
      rw [List.drop_left]
    · rw [if_neg moved] at here
      by_cases left : source <+: other
      · rw [if_pos left] at here
        exact absurd rfl here
      · rw [if_neg left] at here
        exact List.mem_append_left _ (tree.listed other here)
  rooted above name here := by
    by_cases moved : target <+: above
    · obtain ⟨rest, rfl⟩ := moved
      rw [if_pos (List.prefix_append target rest), List.drop_left]
      rw [List.append_assoc, if_pos (List.prefix_append target _), List.drop_left,
        ← List.append_assoc] at here
      exact tree.rooted _ name here
    · rw [if_neg moved]
      by_cases whole : target <+: above ++ [name]
      · -- The directory that is moved stands in the parent of its new path.
        rcases List.prefix_concat_iff.mp whole with rfl | shorter
        · rw [List.dropLast_concat] at parent
          rw [if_neg fun inside => apart (inside.trans (List.prefix_append above [name])), parent]
        · exact absurd shorter moved
      · rw [if_neg whole] at here
        have outside : ¬source <+: above ++ [name] := by
          intro left
          rw [if_pos left] at here
          exact here rfl
        rw [if_neg outside] at here
        rw [if_neg fun inside => outside (inside.trans (List.prefix_append above [name]))]
        exact tree.rooted above name here

/-- `os.replace(source, target)` of a directory, to a path at which nothing stands. -/
def moveTree (source target : TreePath) (tree : FileTree Content) : Option (FileTree Content) :=
  if free : isDirectory (tree.node source) = true ∧ (tree.node target).isNone = true ∧
      target ≠ [] ∧ isDirectory (tree.node target.dropLast) = true ∧ ¬source <+: target then
    some (tree.withMoved source target free.2.2.2.2 (isDirectory_iff.mp free.2.2.2.1))
  else none

theorem moveTree_some {source target : TreePath}
    (moved : tree.moveTree source target = some after) :
    tree.node source = some .directory ∧ ∀ other, after.node other =
      if target <+: other then tree.node (source ++ other.drop target.length)
      else if source <+: other then none else tree.node other := by
  unfold moveTree at moved
  split at moved
  · rename_i free
    obtain rfl := Option.some.inj moved
    exact ⟨isDirectory_iff.mp free.1, fun _ => rfl⟩
  · cases moved

/-! ### The files below a path -/

/-- The regular files at a path and below it. -/
def filesUnder (root : TreePath) (tree : FileTree Content) : List TreePath :=
  (tree.names.filter fun path => root <+: path ∧ isFile (tree.node path) = true).dedup

theorem mem_filesUnder {root path : TreePath} {tree : FileTree Content} :
    path ∈ tree.filesUnder root ↔
      root <+: path ∧ ∃ content mode, tree.node path = some (.file content mode) := by
  unfold filesUnder
  rw [List.mem_dedup, List.mem_filter, decide_eq_true_iff, isFile_iff]
  constructor
  · rintro ⟨-, inside, file⟩
    exact ⟨inside, file⟩
  · rintro ⟨inside, content, mode, file⟩
    refine ⟨tree.listed path ?_, inside, content, mode, file⟩
    rw [file]
    exact nofun

theorem nodup_filesUnder (root : TreePath) (tree : FileTree Content) :
    (tree.filesUnder root).Nodup := List.nodup_dedup _

/-- The size of what stands at a path. -/
def sizeAt (size : Content → Nat) : Option (TreeNode Content) → Nat
  | some (.file content _) => size content
  | _ => 0

/-- The size of the files at a path and below it. -/
def usage (size : Content → Nat) (root : TreePath) (tree : FileTree Content) : Nat :=
  ((tree.filesUnder root).map fun path => sizeAt size (tree.node path)).sum

/-- Two trees with the same files below a path use the same space there. -/
theorem usage_congr (size : Content → Nat) {root : TreePath} {tree other : FileTree Content}
    (same : ∀ path, root <+: path → ∀ content mode,
      tree.node path = some (.file content mode) ↔ other.node path = some (.file content mode)) :
    tree.usage size root = other.usage size root := by
  have files : (tree.filesUnder root).Perm (other.filesUnder root) := by
    rw [List.perm_ext_iff_of_nodup (nodup_filesUnder root tree) (nodup_filesUnder root other)]
    intro path
    rw [mem_filesUnder, mem_filesUnder]
    exact and_congr_right fun inside => exists_congr fun content => exists_congr fun mode =>
      same path inside content mode
  unfold usage
  have sizes : (tree.filesUnder root).map (fun path => sizeAt size (tree.node path)) =
      (tree.filesUnder root).map fun path => sizeAt size (other.node path) := by
    refine List.map_congr_left fun path member => ?_
    obtain ⟨inside, content, mode, file⟩ := mem_filesUnder.mp member
    rw [file, (same path inside content mode).mp file]
  rw [sizes]
  exact (files.map _).sum_eq

/-- A new file adds its size. -/
theorem usage_of_update (size : Content → Nat) {root path : TreePath} (inside : root <+: path)
    {mode : Nat} (fresh : tree.node path = none)
    (written : after.node = Function.update tree.node path (some (.file content mode))) :
    after.usage size root = tree.usage size root + size content := by
  have outside : path ∉ tree.filesUnder root := by
    intro member
    obtain ⟨-, old, oldMode, file⟩ := mem_filesUnder.mp member
    rw [fresh] at file
    cases file
  have files : (after.filesUnder root).Perm (path :: tree.filesUnder root) := by
    rw [List.perm_ext_iff_of_nodup (nodup_filesUnder root after)
      (List.nodup_cons.mpr ⟨outside, nodup_filesUnder root tree⟩)]
    intro other
    rw [mem_filesUnder, List.mem_cons, mem_filesUnder, written]
    by_cases here : other = path
    · rw [here, Function.update_self]
      exact ⟨fun _ => .inl rfl, fun _ => ⟨inside, content, mode, rfl⟩⟩
    · rw [Function.update_of_ne here]
      exact ⟨.inr, fun member => member.resolve_left here⟩
  have rest : (tree.filesUnder root).map (fun other => sizeAt size (after.node other)) =
      (tree.filesUnder root).map fun other => sizeAt size (tree.node other) := by
    refine List.map_congr_left fun other member => ?_
    rw [written, Function.update_of_ne]
    rintro rfl
    exact outside member
  unfold usage
  rw [(files.map _).sum_eq, List.map_cons, List.sum_cons, rest, written, Function.update_self,
    Nat.add_comm]
  rfl

end FileTree

end CareerOS
