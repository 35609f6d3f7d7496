import BrokerSession.Files
import Mathlib.Data.List.Nodup

/-!
# What a directory holds

A tree of files keeps its entries in a list, in no order that means anything, and each of its places occurs there once.
What a directory holds can therefore be found in two ways. Whoever goes through the list meets the names in the order of
the list; whoever asks for a name looks up one place. Both find the same.

## Main definitions

* `Files.Distinct` - no place occurs twice
* `Files.IsDirectory`, `Files.HoldsAt` - a path leads to a directory, which holds a node under a name

## Main results

* `Files.distinct_addFile`, `Files.distinct_addDirectory` - a tree that is built file by file has each place once
* `Files.mem_children_iff` - a directory lists what is found in it by name
* `Files.nodup_children` - and lists each name once
-/

namespace BrokerSession.Files

variable {fs : Files} {path name : String} {dir place : Location} {node : FileNode}

/-! ## Places -/

/-- No place occurs twice among the entries. -/
def Distinct (fs : Files) : Prop := (fs.entries.map (·.1)).Nodup

theorem distinct_empty : empty.Distinct := List.nodup_nil

theorem Distinct.insert (distinct : fs.Distinct) (place : Location) (node : FileNode) :
    (fs.insert place node).Distinct := by
  unfold Distinct Files.insert
  rw [List.map_append, List.nodup_append]
  refine ⟨distinct.sublist (List.filter_sublist.map _), List.nodup_singleton _, ?_⟩
  intro a kept b added
  obtain ⟨entry, among, rfl⟩ := List.mem_map.mp kept
  rw [List.map_singleton, List.mem_singleton] at added
  rw [added]
  exact bne_iff_ne.mp (List.mem_filter.mp among).2

theorem Distinct.insertParents (distinct : fs.Distinct) (place : Location) : (fs.insertParents place).Distinct := by
  unfold Files.insertParents
  -- Each step of the way adds one directory at most.
  induction List.range place.length generalizing fs with
  | nil => exact distinct
  | cons n rest ih =>
    rw [List.foldl_cons]
    apply ih
    split
    · exact distinct
    · exact distinct.insert _ _

/-- A file that is added takes the place of what was there. -/
theorem distinct_addFile (distinct : fs.Distinct) (path : String) (contents : ByteArray) :
    (fs.addFile path contents).Distinct :=
  (distinct.insertParents _).insert _ _

theorem distinct_addDirectory (distinct : fs.Distinct) (path : String) : (fs.addDirectory path).Distinct := by
  unfold addDirectory
  dsimp only
  split
  · exact distinct.insertParents _
  · exact (distinct.insertParents _).insert _ _

/-- Below the directories that are always there a place holds what the entries say. -/
theorem node?_eq_some_iff (distinct : fs.Distinct) (below : place.all (· == upward) = false) :
    fs.node? place = some node ↔ (place, node) ∈ fs.entries := by
  rw [node?, below, if_neg (by simp), Option.map_eq_some_iff]
  constructor
  · rintro ⟨entry, found, rfl⟩
    have here : entry.1 = place := by simpa using List.find?_some found
    exact here ▸ List.mem_of_find?_eq_some found
  · intro among
    cases found : fs.entries.find? (·.1 == place) with
    | none => simpa using List.find?_eq_none.mp found _ among
    | some entry =>
      have here : entry.1 = place := by simpa using List.find?_some found
      have same := List.inj_on_of_nodup_map distinct (List.mem_of_find?_eq_some found) among here
      exact ⟨entry, rfl, by rw [same]⟩

/-! ## Directories -/

/-- A path leads to a directory. -/
def IsDirectory (fs : Files) (path : String) : Prop := ∃ dir, fs.find path = .ok (dir, .directory)

/-- A path leads to a directory that holds a node under a name. -/
def HoldsAt (fs : Files) (path name : String) (node : FileNode) : Prop :=
  ∃ dir, fs.find path = .ok (dir, .directory) ∧ fs.node? (dir ++ [name]) = some node

theorem nameInside?_eq_some_iff : nameInside? dir place = some name ↔ place = dir ++ [name] := by
  unfold nameInside?
  constructor
  · intro inside
    split at inside
    · rename_i above
      rw [← above]
      exact (List.dropLast_append_getLast? name inside).symm
    · cases inside
  · rintro rfl
    simp

/-- A directory is listed entry by entry. -/
theorem children_of_find (found : fs.find path = .ok (dir, .directory)) :
    fs.children path =
      .ok (fs.entries.filterMap fun (place, node) => (nameInside? dir place).map (·, node)) := by
  rw [children, found]
  rfl

theorem exists_children_iff : (∃ children, fs.children path = .ok children) ↔ fs.IsDirectory path := by
  constructor
  · rintro ⟨listed, made⟩
    rw [children] at made
    cases found : fs.find path with
    | error fault => rw [found] at made; cases made
    | ok there =>
      obtain ⟨dir, node⟩ := there
      rw [found] at made
      cases node with
      | directory => exact ⟨dir, found⟩
      | file contents => cases made
      | lockedFile => cases made
  · rintro ⟨dir, found⟩
    exact ⟨_, children_of_find found⟩

/-- A directory lists what is found in it by name. -/
theorem mem_children_iff (distinct : fs.Distinct) {children : List (String × FileNode)}
    (listed : fs.children path = .ok children) (proper : name ≠ upward) :
    (name, node) ∈ children ↔ fs.HoldsAt path name node := by
  obtain ⟨dir, found⟩ := exists_children_iff.mp ⟨children, listed⟩
  rw [children_of_find found, Except.ok.injEq] at listed
  have below : (dir ++ [name]).all (· == upward) = false := by simp [proper]
  have byName : fs.HoldsAt path name node ↔ (dir ++ [name], node) ∈ fs.entries := by
    rw [← node?_eq_some_iff distinct below]
    constructor
    · rintro ⟨dir', found', there⟩
      obtain rfl := (Prod.mk.inj (Except.ok.inj (found.symm.trans found'))).1
      exact there
    · exact fun there => ⟨dir, found, there⟩
  rw [byName, ← listed, List.mem_filterMap]
  constructor
  · rintro ⟨⟨place, node'⟩, among, here⟩
    obtain ⟨name', inside, same⟩ := Option.map_eq_some_iff.mp here
    obtain ⟨rfl, rfl⟩ := Prod.mk.inj same
    exact nameInside?_eq_some_iff.mp inside ▸ among
  · intro among
    exact ⟨_, among, by simp [nameInside?_eq_some_iff.mpr]⟩

/-- A directory lists each name once. -/
theorem nodup_children (distinct : fs.Distinct) {children : List (String × FileNode)}
    (listed : fs.children path = .ok children) : (children.map (·.1)).Nodup := by
  obtain ⟨dir, found⟩ := exists_children_iff.mp ⟨children, listed⟩
  rw [children_of_find found, Except.ok.injEq] at listed
  have names : children.map (·.1) = (fs.entries.map (·.1)).filterMap (nameInside? dir) := by
    rw [← listed, List.map_filterMap, List.filterMap_map]
    congr 1
    funext entry
    simp [Function.comp_def]
  rw [names]
  refine List.Nodup.filterMap (fun place place' name inside inside' => ?_) distinct
  rw [nameInside?_eq_some_iff.mp inside, nameInside?_eq_some_iff.mp inside']

end BrokerSession.Files
