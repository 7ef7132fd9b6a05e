import Jaxrs.Proofs.ImportTable.Order

/-!
Which classes are imported. `Importable` says what a class needs that is to be imported: a package
that is not in scope anyway, and a simple name that nothing in scope has. Of the importable classes
with one simple name the first in the order of imports is imported, and no other
(`mem_imports_iff`). The choice is made class by class, with the simple names that are gone kept in
a list; `mem_shortened_iff` is the invariant of that, for classes that come in their order.
-/

set_option autoImplicit false

namespace Jaxrs.ImportTable

theorem origin_eq_elsewhere {package name : String} :
    origin package name = .elsewhere ↔ (splitQualified name).1 ∉ ["", package, "java.lang"] := by
  rw [List.mem_cons, List.mem_cons, List.mem_singleton, not_or, not_or, origin]
  by_cases hempty : (splitQualified name).1 = ""
  · simp [hempty]
  by_cases hpackage : (splitQualified name).1 = package
  · simp [hpackage]
  by_cases hlang : (splitQualified name).1 = "java.lang"
  · have hne : "java.lang" ≠ package := hlang ▸ hpackage
    simp [hlang, hne]
  · simp [hempty, hpackage, hlang]

/-- The class has to be imported to go by its simple name, and nothing that is in scope without
being imported has that name. -/
structure Importable (package interfaceName : String) (classes : List String) (name : String) :
    Prop where
  owner : (splitQualified name).1 ∉ ["", package, "java.lang"]
  ne_interfaceName : simpleName name ≠ interfaceName
  free : ∀ other ∈ classes, (splitQualified other).1 ∈ ["", package, "java.lang"] →
    simpleName other ≠ simpleName name

section Shortened

variable {taken names : List String} {name : String}

theorem shortened_sublist (taken names : List String) : (shortened taken names).Sublist names := by
  induction names generalizing taken with
  | nil => exact List.Sublist.refl []
  | cons first rest ih =>
    rw [shortened]
    split
    · exact (ih taken).cons first
    · exact (ih _).cons_cons first

/-- Of classes in their order, those get their simple name that come first with it, unless it is
taken already. -/
theorem mem_shortened_iff (h : names.Pairwise (fun a b ↦ importKey a < importKey b)) :
    name ∈ shortened taken names ↔ name ∈ names ∧ simpleName name ∉ taken ∧
      ∀ other ∈ names, simpleName other = simpleName name → importKey name ≤ importKey other := by
  induction names generalizing taken with
  | nil => simp [shortened]
  | cons first rest ih =>
    obtain ⟨hfirst, hrest⟩ := List.pairwise_cons.mp h
    rw [shortened]
    by_cases htaken : simpleName first ∈ taken
    · -- A class with the first one's name is not chosen either, so that the first does not count.
      rw [if_pos (by simpa using htaken), ih hrest]
      constructor
      · rintro ⟨hmem, hfree, hleast⟩
        refine ⟨List.mem_cons_of_mem first hmem, hfree, List.forall_mem_cons.mpr ⟨?_, hleast⟩⟩
        intro heq
        exact absurd (heq ▸ htaken) hfree
      · rintro ⟨hmem, hfree, hleast⟩
        refine ⟨(List.mem_cons.mp hmem).resolve_left ?_, hfree, (List.forall_mem_cons.mp hleast).2⟩
        rintro rfl
        exact hfree htaken
    · rw [if_neg (by simpa using htaken), List.mem_cons, ih hrest]
      constructor
      · rintro (rfl | ⟨hmem, hfree, hleast⟩)
        · refine ⟨List.mem_cons_self, htaken, List.forall_mem_cons.mpr ⟨fun _ ↦ le_rfl, ?_⟩⟩
          intro other hother _
          exact (hfirst other hother).le
        · rw [List.mem_cons, not_or] at hfree
          refine ⟨List.mem_cons_of_mem first hmem, hfree.2, List.forall_mem_cons.mpr ⟨?_, hleast⟩⟩
          intro heq
          exact absurd heq.symm hfree.1
      · rintro ⟨hmem, hfree, hleast⟩
        obtain ⟨hfirstLeast, hleast⟩ := List.forall_mem_cons.mp hleast
        refine (List.mem_cons.mp hmem).imp_right fun hmem ↦ ⟨hmem, ?_, hleast⟩
        rw [List.mem_cons, not_or]
        refine ⟨fun heq ↦ ?_, hfree⟩
        exact absurd (hfirstLeast heq.symm) (not_le_of_gt (hfirst name hmem))

end Shortened

section Imports

variable {package interfaceName name : String} {classes classes' : List String}

theorem pairwise_candidates (package : String) (classes : List String) :
    (((sortedNames classes).filter fun c ↦ origin package c == .elsewhere).mergeSort
      importOrder).Pairwise (fun a b ↦ importKey a < importKey b) := by
  refine pairwise_lt_mergeSort importOrder_iff importKey_injective ?_
  exact (pairwise_lt_sortedNames classes).nodup.filter _

theorem pairwise_imports (package interfaceName : String) (classes : List String) :
    (ofClasses package interfaceName classes).imports.Pairwise
      (fun a b ↦ importKey a < importKey b) :=
  (pairwise_candidates package classes).sublist (shortened_sublist _ _)

/-- The names that are gone before the first import is chosen. -/
theorem importable_iff : Importable package interfaceName classes name ↔
    origin package name = .elsewhere ∧ simpleName name ∉ interfaceName ::
      ((sortedNames classes).filter (origin package · == .samePackage) ++
        (sortedNames classes).filter (origin package · == .javaLang)).map simpleName := by
  have hscope (other : String) : (splitQualified other).1 ∈ ["", package, "java.lang"] ↔
      origin package other = .samePackage ∨ origin package other = .javaLang := by
    rw [← not_iff_not, ← origin_eq_elsewhere]
    cases origin package other <;> simp
  have hfree : (∀ other ∈ classes, (splitQualified other).1 ∈ ["", package, "java.lang"] →
      simpleName other ≠ simpleName name) ↔
        simpleName name ∉ ((sortedNames classes).filter (origin package · == .samePackage) ++
          (sortedNames classes).filter (origin package · == .javaLang)).map simpleName := by
    simp only [List.mem_map, List.mem_append, List.mem_filter, mem_sortedNames, beq_iff_eq,
      ← and_or_left, ← hscope, not_exists, not_and, and_imp, ne_eq]
  rw [List.mem_cons, not_or, ← hfree, origin_eq_elsewhere]
  exact ⟨fun h ↦ ⟨h.owner, h.ne_interfaceName, h.free⟩, fun h ↦ ⟨h.1, h.2.1, h.2.2⟩⟩

/-- The first importable class of each simple name is imported. -/
theorem mem_imports_iff : name ∈ (ofClasses package interfaceName classes).imports ↔
    name ∈ classes ∧ Importable package interfaceName classes name ∧
      ∀ other ∈ classes, Importable package interfaceName classes other →
        simpleName other = simpleName name → importKey name ≤ importKey other := by
  have hcandidate (other : String) :
      other ∈
          ((sortedNames classes).filter (origin package · == .elsewhere)).mergeSort importOrder ↔
        other ∈ classes ∧ origin package other = .elsewhere := by
    rw [List.mem_mergeSort, List.mem_filter, mem_sortedNames, beq_iff_eq]
  rw [ofClasses, mem_shortened_iff (pairwise_candidates package classes)]
  simp only [hcandidate, importable_iff]
  constructor
  · rintro ⟨⟨hmem, horigin⟩, hfree, hleast⟩
    exact ⟨hmem, ⟨horigin, hfree⟩, fun other hother himportable ↦
      hleast other ⟨hother, himportable.1⟩⟩
  · rintro ⟨hmem, ⟨horigin, hfree⟩, hleast⟩
    refine ⟨⟨hmem, horigin⟩, hfree, fun other hother heq ↦ ?_⟩
    exact hleast other hother.1 ⟨hother.2, heq ▸ hfree⟩ heq

/-- The table is that of the set of the classes. -/
theorem ofClasses_congr (h : ∀ c, c ∈ classes' ↔ c ∈ classes) :
    ofClasses package interfaceName classes' = ofClasses package interfaceName classes := by
  rw [ofClasses, ofClasses, sortedNames_congr h]

/-- The full name is what is left where the simple name is not to be had. -/
theorem spell?_eq_self (hname : name ∈ classes)
    (hne : (ofClasses package interfaceName classes).spell? name ≠ some (simpleName name)) :
    (ofClasses package interfaceName classes).spell? name = some name := by
  rw [spell?_of_mem hname] at hne ⊢
  split at hne
  · exact absurd rfl hne
  · rename_i hfull
    rw [if_neg hfull]

end Imports

end Jaxrs.ImportTable
