import Jaxrs.Proofs.Discovery
import Jaxrs.Proofs.FileTree.WellFormed
import Mathlib.Data.List.Sort

/-!
Walks over a tree of files. A walk takes the entries of a directory in the order of their names, and
goes into each directory where its name stands (`visit`). By induction on the depth that is left, it
finds every file below the directory (`mem_visit_iff`), and it finds them in the order of the names
that lead to them (`pairwise_visit`): the names of one directory are in order, and all files of an
entry have its name first. A list in that order is known by its members, so all files below a
directory, put in order, are what a walk finds (`visit_height_eq`).
-/

set_option autoImplicit false

namespace Jaxrs.FileTree

/-- The name of a place in this directory. -/
def nameIn? (directory place : Place) : Option String :=
  if place.dropLast = directory then place.getLast? else none

/-- The names in a directory, in their order. -/
def namesIn (t : FileTree) (directory : Place) : List String :=
  ((t.entries.map Prod.fst).filterMap (nameIn? directory)).insertionSort (· ≤ ·)

/-- What an entry of a directory adds to a walk: itself if it is a file, or what is below it. -/
def found (t : FileTree) (below : List Place) (directory : Place) (name : String) : List Place :=
  match t.find? (directory ++ [name]) with
  | some (.file _) => [[name]]
  | some .directory => below.map (name :: ·)
  | none => []

/-- The files that a walk finds below a directory, by the names that lead to them from there. -/
def visit (t : FileTree) : Nat → Place → List Place
  | 0, _ => []
  | depth + 1, directory => (t.namesIn directory).flatMap fun name ↦
      t.found (t.visit depth (directory ++ [name])) directory name

/-- No place lies deeper. -/
def height (t : FileTree) : Nat :=
  (t.entries.map fun entry ↦ entry.1.length).max?.getD 0

variable {t : FileTree} {directory place inner : Place} {name : String} {depth : Nat} {e : Entry}

theorem nameIn?_eq_some_iff :
    nameIn? directory place = some name ↔ place = directory ++ [name] := by
  rw [nameIn?]
  constructor
  · intro h
    split at h
    · rename_i hdirectory
      rw [← hdirectory, List.dropLast_append_getLast? name h]
    · cases h
  · rintro rfl
    simp

theorem mem_namesIn_iff :
    name ∈ t.namesIn directory ↔ ∃ e, (directory ++ [name], e) ∈ t.entries := by
  simp only [namesIn, List.mem_insertionSort, List.mem_filterMap, nameIn?_eq_some_iff]
  simp

theorem length_le_height (h : (place, e) ∈ t.entries) : place.length ≤ t.height :=
  List.le_max?_getD_of_mem (List.mem_map_of_mem (f := fun entry ↦ entry.1.length) h)

theorem mem_found_iff {below : List Place} : inner ∈ t.found below directory name ↔
    (inner = [name] ∧ ∃ content, t.find? (directory ++ [name]) = some (.file content)) ∨
      (t.find? (directory ++ [name]) = some .directory ∧ ∃ rest ∈ below, inner = name :: rest) := by
  rw [found]
  cases t.find? (directory ++ [name]) with
  | none => simp
  | some e =>
    cases e with
    | file content => simp
    | directory => simp [eq_comm]

theorem exists_eq_cons_of_mem_found {below : List Place}
    (h : inner ∈ t.found below directory name) : ∃ rest, inner = name :: rest := by
  rcases mem_found_iff.mp h with ⟨rfl, _⟩ | ⟨_, rest, _, rfl⟩
  · exact ⟨[], rfl⟩
  · exact ⟨rest, rfl⟩

theorem pairwise_found {below : List Place} (h : below.Pairwise (· < ·)) (directory : Place)
    (name : String) : (t.found below directory name).Pairwise (· < ·) := by
  rw [found]
  split
  · exact List.pairwise_singleton _ _
  · exact List.pairwise_map.mpr (h.imp List.Lex.cons)
  · exact List.Pairwise.nil

namespace WellFormed

variable (ht : t.WellFormed)

include ht

theorem pairwise_namesIn (directory : Place) : (t.namesIn directory).Pairwise (· < ·) := by
  have hnodup : ((t.entries.map Prod.fst).filterMap (nameIn? directory)).Nodup := by
    refine ht.nodup.filterMap fun place place' name h h' ↦ ?_
    rw [nameIn?_eq_some_iff.mp h, nameIn?_eq_some_iff.mp h']
  have hle : (t.namesIn directory).Pairwise (· ≤ ·) := List.pairwise_insertionSort _ _
  have hne : (t.namesIn directory).Nodup := (List.perm_insertionSort _ _).nodup_iff.mpr hnodup
  exact (hle.and hne).imp fun h ↦ lt_of_le_of_ne h.1 h.2

theorem mem_visit_iff : inner ∈ t.visit depth directory ↔
    inner ≠ [] ∧ inner.length ≤ depth ∧
      ∃ content, t.find? (directory ++ inner) = some (.file content) := by
  induction depth generalizing directory inner with
  | zero =>
    refine iff_of_false List.not_mem_nil ?_
    rintro ⟨hinner, hlength, _⟩
    exact hinner (List.length_eq_zero_iff.mp (Nat.le_zero.mp hlength))
  | succ depth ih =>
    simp only [visit, List.mem_flatMap, mem_namesIn_iff, mem_found_iff, ih]
    constructor
    · rintro ⟨name, _, ⟨rfl, hfile⟩ | ⟨_, rest, ⟨_, hlength, hfile⟩, rfl⟩⟩
      · exact ⟨List.cons_ne_nil name [], by simp, hfile⟩
      · rw [List.append_assoc] at hfile
        exact ⟨List.cons_ne_nil name rest, Nat.succ_le_succ hlength, hfile⟩
    · rintro ⟨hinner, hlength, content, hfile⟩
      obtain ⟨name, rest, rfl⟩ := List.exists_cons_of_ne_nil hinner
      have hplace : directory ++ [name] ≠ [] := List.append_ne_nil_of_right_ne_nil _ (by simp)
      by_cases hrest : rest = []
      · subst hrest
        exact ⟨name, ⟨_, ht.mem_entries_of_find? hplace hfile⟩, Or.inl ⟨rfl, content, hfile⟩⟩
      · rw [List.append_cons] at hfile
        have hdirectory := ht.directory_of_append hrest hfile
        exact ⟨name, ⟨_, ht.mem_entries_of_find? hplace hdirectory⟩, Or.inr ⟨hdirectory, rest,
          ⟨hrest, Nat.le_of_succ_le_succ hlength, content, hfile⟩, rfl⟩⟩

/-- With the height of the tree as depth a walk misses nothing. -/
theorem mem_visit_height_iff : inner ∈ t.visit t.height directory ↔
    inner ≠ [] ∧ ∃ content, t.find? (directory ++ inner) = some (.file content) := by
  rw [ht.mem_visit_iff]
  refine and_congr_right fun hinner ↦ and_iff_right_of_imp ?_
  rintro ⟨content, hfile⟩
  have hplace : directory ++ inner ≠ [] := List.append_ne_nil_of_right_ne_nil _ hinner
  have hheight := length_le_height (ht.mem_entries_of_find? hplace hfile)
  rw [List.length_append] at hheight
  omega

theorem pairwise_visit (depth : Nat) (directory : Place) :
    (t.visit depth directory).Pairwise (· < ·) := by
  induction depth generalizing directory with
  | zero => exact List.Pairwise.nil
  | succ depth ih =>
    rw [visit, List.pairwise_flatMap]
    refine ⟨fun name _ ↦ pairwise_found (ih _) directory name, ?_⟩
    refine (ht.pairwise_namesIn directory).imp fun hlt inner hinner inner' hinner' ↦ ?_
    obtain ⟨rest, rfl⟩ := exists_eq_cons_of_mem_found hinner
    obtain ⟨rest', rfl⟩ := exists_eq_cons_of_mem_found hinner'
    exact List.Lex.rel hlt

/-! ### Files put in order -/

theorem mem_filesBelow_iff {base : FilePath} (h : t.resolve base = .ok directory) :
    inner ∈ t.filesBelow base ↔
      inner ≠ [] ∧ ∃ content, t.find? (directory ++ inner) = some (.file content) := by
  rw [filesBelow_eq_filterMap h, List.mem_filterMap]
  constructor
  · rintro ⟨⟨place, e⟩, hentry, hbelow⟩
    obtain ⟨rfl, hinner, content, rfl⟩ := below?_eq_some_iff.mp hbelow
    have hplace : directory ++ inner ≠ [] := List.append_ne_nil_of_right_ne_nil _ hinner
    exact ⟨hinner, content, (ht.find?_eq_some_iff hplace).mpr hentry⟩
  · rintro ⟨hinner, content, hfile⟩
    have hplace : directory ++ inner ≠ [] := List.append_ne_nil_of_right_ne_nil _ hinner
    exact ⟨_, ht.mem_entries_of_find? hplace hfile,
      below?_eq_some_iff.mpr ⟨rfl, hinner, content, rfl⟩⟩

theorem nodup_filesBelow {base : FilePath} (h : t.resolve base = .ok directory) :
    (t.filesBelow base).Nodup := by
  rw [filesBelow_eq_filterMap h, List.Nodup, List.pairwise_filterMap]
  refine (List.pairwise_map.mp ht.nodup).imp fun hne inner hinner inner' hinner' heq ↦ hne ?_
  rw [(below?_eq_some_iff.mp hinner).1, (below?_eq_some_iff.mp hinner').1, heq]

/-- All files below a directory, put in order, are what a walk finds. -/
theorem visit_height_eq {base : FilePath} (h : t.resolve base = .ok directory) :
    t.visit t.height directory = (t.filesBelow base).mergeSort placeOrder := by
  have hvisit := ht.pairwise_visit t.height directory
  have hmem (inner : Place) : inner ∈ t.visit t.height directory ↔
      inner ∈ (t.filesBelow base).mergeSort placeOrder := by
    rw [ht.mem_visit_height_iff, List.mem_mergeSort, ht.mem_filesBelow_iff h]
  have hnodup : ((t.filesBelow base).mergeSort placeOrder).Nodup :=
    (List.mergeSort_perm _ _).nodup_iff.mpr (ht.nodup_filesBelow h)
  have hperm := (List.perm_ext_iff_of_nodup (hvisit.imp ne_of_lt) hnodup).mpr hmem
  exact hperm.eq_of_pairwise (fun _ _ _ _ hle hle' ↦ le_antisymm hle hle')
    (hvisit.imp le_of_lt) (pairwise_mergeSort_key placeOrder_iff _)

end WellFormed

end Jaxrs.FileTree
