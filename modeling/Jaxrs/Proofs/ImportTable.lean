import Jaxrs.ImportTable
import Jaxrs.Proofs.Identifier
import Mathlib.Data.List.Nodup

/-!
What the spellings of an import table stand for. `NameScope.denotes?` looks a spelling up as a
reader of the source does: a full name stands for itself, and a simple name for the interface, else
for an import, else for a class of the package that the source refers to, else for a class of
`java.lang`. `denotes?_spell?` is the main statement: every class that a table is made for is in the
table, and its spelling stands for it and for no other class.
-/

set_option autoImplicit false

namespace Jaxrs

@[simp] theorem mem_sortedNames {name : String} {names : List String} :
    name ∈ sortedNames names ↔ name ∈ names := by
  rw [sortedNames, List.mem_eraseDups, List.mem_mergeSort]

/-- What decides about the class that a name in a source file stands for. -/
structure NameScope where
  package : String
  interfaceName : String
  imports : List String
  /-- The classes that the source refers to. -/
  referenced : List String

namespace NameScope

/-- The class of the scope's package that has this simple name. -/
def member (scope : NameScope) (simple : String) : String :=
  if scope.package = "" then simple else scope.package ++ "." ++ simple

/-- The class that a model means by a name, where a name without a package is one of the scope's. -/
def classOf (scope : NameScope) (name : String) : String :=
  if '.' ∈ name.toList then name else scope.member name

/-- The class is referred to as one of the scope's package, with or without naming the package. -/
def IsMember (scope : NameScope) (simple name : String) : Prop :=
  ((splitQualified name).1 = "" ∨ (splitQualified name).1 = scope.package) ∧
    simpleName name = simple

instance (scope : NameScope) (simple name : String) : Decidable (scope.IsMember simple name) :=
  inferInstanceAs (Decidable (_ ∧ _))

/-- The class that a spelling stands for; none if several imports claim it. -/
def denotes? (scope : NameScope) (spelling : String) : Option String :=
  if '.' ∈ spelling.toList then some spelling
  else if spelling = scope.interfaceName then some (scope.member spelling)
  else match scope.imports.filter (simpleName · == spelling) with
    | [name] => some name
    | _ :: _ :: _ => none
    | [] =>
      if ∃ name ∈ scope.referenced, scope.IsMember spelling name then some (scope.member spelling)
      else some ("java.lang." ++ spelling)

end NameScope

namespace ImportTable

theorem origin_eq_samePackage {package name : String} :
    origin package name = .samePackage ↔
      (splitQualified name).1 = "" ∨ (splitQualified name).1 = package := by
  simp only [origin]
  split
  · simp_all
  · split <;> simp_all

theorem owner_of_javaLang {package name : String} (h : origin package name = .javaLang) :
    (splitQualified name).1 = "java.lang" := by
  simp only [origin] at h
  split at h
  · simp at h
  · split at h <;> simp_all

/-- A class from elsewhere has a package. -/
theorem mem_of_elsewhere {package name : String} (h : origin package name = .elsewhere) :
    '.' ∈ name.toList := by
  refine mem_of_owner_ne_empty fun hempty ↦ ?_
  rw [origin_eq_samePackage.mpr (Or.inl hempty)] at h
  cases h

theorem mem_of_javaLang {package name : String} (h : origin package name = .javaLang) :
    '.' ∈ name.toList := by
  refine mem_of_owner_ne_empty ?_
  rw [owner_of_javaLang h]
  decide

section Shortened

variable {taken names : List String} {name : String}

theorem mem_of_mem_shortened (h : name ∈ shortened taken names) :
    name ∈ names ∧ simpleName name ∉ taken := by
  induction names generalizing taken with
  | nil => simp [shortened] at h
  | cons first rest ih =>
    rw [shortened] at h
    split at h
    · exact ⟨List.mem_cons_of_mem first (ih h).1, (ih h).2⟩
    · rename_i hfirst
      rcases List.mem_cons.mp h with rfl | h
      · exact ⟨List.mem_cons_self, by simpa using hfirst⟩
      · obtain ⟨hmem, htaken⟩ := ih h
        exact ⟨List.mem_cons_of_mem first hmem, fun hin ↦ htaken (List.mem_cons_of_mem _ hin)⟩

theorem nodup_shortened : ((shortened taken names).map simpleName).Nodup := by
  induction names generalizing taken with
  | nil => simp [shortened]
  | cons first rest ih =>
    rw [shortened]
    split
    · exact ih
    · rw [List.map_cons, List.nodup_cons]
      refine ⟨?_, ih⟩
      intro hmem
      obtain ⟨other, hother, heq⟩ := List.mem_map.mp hmem
      exact (mem_of_mem_shortened hother).2 (heq ▸ List.mem_cons_self)

theorem filter_simpleName_eq_singleton {l : List String} (hl : (l.map simpleName).Nodup)
    (h : name ∈ l) : l.filter (simpleName · == simpleName name) = [name] := by
  induction l with
  | nil => simp at h
  | cons first rest ih =>
    rw [List.map_cons, List.nodup_cons] at hl
    rcases List.mem_cons.mp h with rfl | h
    · rw [List.filter_cons_of_pos (by simp), List.filter_eq_nil_iff.mpr]
      intro other hother
      have hne : simpleName other ≠ simpleName name := fun heq ↦
        hl.1 (heq ▸ List.mem_map_of_mem hother)
      simpa using hne
    · have hne : simpleName first ≠ simpleName name := fun heq ↦
        hl.1 (heq ▸ List.mem_map_of_mem h)
      rw [List.filter_cons_of_neg (by simpa using hne), ih hl.2 h]

/-- A class that comes second keeps its simple name only if no earlier one has it. -/
theorem simpleName_ne_of_mem_shortened_append {earlier later : List String}
    (h : name ∈ shortened taken (earlier ++ later)) (hname : name ∉ earlier) :
    ∀ other ∈ earlier, simpleName other ≠ simpleName name := by
  induction earlier generalizing taken with
  | nil => simp
  | cons first rest ih =>
    rw [List.mem_cons, not_or] at hname
    rw [List.cons_append, shortened] at h
    intro other hother
    split at h
    · rename_i hfirst
      rcases List.mem_cons.mp hother with rfl | hother
      · intro heq
        exact (mem_of_mem_shortened h).2 (heq ▸ by simpa using hfirst)
      · exact ih h hname.2 other hother
    · rcases List.mem_cons.mp h with heq | h
      · exact absurd heq hname.1
      · rcases List.mem_cons.mp hother with rfl | hother
        · intro heq
          exact (mem_of_mem_shortened h).2 (heq ▸ List.mem_cons_self)
        · exact ih h hname.2 other hother

end Shortened

section Table

variable {package interfaceName name : String} {classes : List String}

private theorem mem_named {o : Origin} :
    name ∈ (sortedNames classes).filter (origin package · == o) ↔
      name ∈ classes ∧ origin package name = o := by
  rw [List.mem_filter, mem_sortedNames, beq_iff_eq]

theorem mem_implicit (h : name ∈ (ofClasses package interfaceName classes).implicit) :
    name ∈ classes ∧ simpleName name ≠ interfaceName ∧
      (origin package name = .samePackage ∨ origin package name = .javaLang) := by
  obtain ⟨hmem, htaken⟩ := mem_of_mem_shortened h
  rw [List.mem_append, mem_named, mem_named] at hmem
  refine ⟨?_, by simpa using htaken, ?_⟩
  · rcases hmem with hmem | hmem <;> exact hmem.1
  · rcases hmem with hmem | hmem
    · exact Or.inl hmem.2
    · exact Or.inr hmem.2

theorem simpleName_ne_of_javaLang (h : name ∈ (ofClasses package interfaceName classes).implicit)
    (hname : origin package name = .javaLang) {other : String} (hother : other ∈ classes)
    (hlocal : origin package other = .samePackage) : simpleName other ≠ simpleName name := by
  refine simpleName_ne_of_mem_shortened_append h ?_ other (mem_named.mpr ⟨hother, hlocal⟩)
  intro hmem
  rw [(mem_named.mp hmem).2] at hname
  cases hname

/-- An import never takes a simple name that means something without it. -/
theorem mem_imports (h : name ∈ (ofClasses package interfaceName classes).imports) :
    name ∈ classes ∧ origin package name = .elsewhere ∧ simpleName name ≠ interfaceName ∧
      ∀ other ∈ classes, origin package other ≠ .elsewhere →
        simpleName other ≠ simpleName name := by
  obtain ⟨hmem, htaken⟩ := mem_of_mem_shortened h
  rw [List.mem_mergeSort, mem_named] at hmem
  rw [List.mem_cons, not_or] at htaken
  refine ⟨hmem.1, hmem.2, htaken.1, ?_⟩
  intro other hother horigin heq
  refine htaken.2 (heq ▸ List.mem_map_of_mem ?_)
  rw [List.mem_append, mem_named, mem_named]
  cases ho : origin package other with
  | samePackage => exact Or.inl ⟨hother, rfl⟩
  | javaLang => exact Or.inr ⟨hother, rfl⟩
  | elsewhere => exact absurd ho horigin

theorem filter_imports_eq_singleton
    (h : name ∈ (ofClasses package interfaceName classes).imports) :
    (ofClasses package interfaceName classes).imports.filter (simpleName · == simpleName name) =
      [name] :=
  filter_simpleName_eq_singleton nodup_shortened h

theorem filter_imports_eq_nil {simple : String}
    (h : ∀ other ∈ (ofClasses package interfaceName classes).imports, simpleName other ≠ simple) :
    (ofClasses package interfaceName classes).imports.filter (simpleName · == simple) = [] := by
  rw [List.filter_eq_nil_iff]
  simpa using h

theorem spell?_of_mem (h : name ∈ classes) :
    (ofClasses package interfaceName classes).spell? name = some
      (if name ∈ (ofClasses package interfaceName classes).implicit ∨
          name ∈ (ofClasses package interfaceName classes).imports then simpleName name
        else name) := by
  by_cases hshort : name ∈ (ofClasses package interfaceName classes).implicit ∨
      name ∈ (ofClasses package interfaceName classes).imports
  · rw [if_pos hshort, spell?, if_pos]
    simpa using hshort
  · rw [if_neg hshort, spell?, if_neg (by simpa using hshort), if_pos]
    rw [List.contains_iff_mem]
    refine List.mem_filter.mpr ⟨mem_sortedNames.mpr h, ?_⟩
    change (!((ofClasses package interfaceName classes).implicit.contains name ||
      (ofClasses package interfaceName classes).imports.contains name)) = true
    simpa using hshort

end Table

theorem isQualifiedName_spell {table : ImportTable} {name : String}
    (h : isQualifiedName name = true) : isQualifiedName (table.spell name) = true := by
  rw [spell, spell?]
  split
  · exact isQualifiedName_of_isIdentifier (isIdentifier_simpleName h)
  · split
    · exact h
    · exact h

end ImportTable

namespace NameScope

variable {scope : NameScope} {name : String}

theorem classOf_eq_self (h : '.' ∈ name.toList) : scope.classOf name = name :=
  if_pos h

/-- An owner that is empty is not written, as no segment of a qualified name is empty. -/
theorem classOf_eq_member (hname : isQualifiedName name = true)
    (h : (splitQualified name).1 = "" ∨ (splitQualified name).1 = scope.package) :
    scope.classOf name = scope.member (simpleName name) := by
  rcases splitQualified_cases name with ⟨hdot, hsplit⟩ | ⟨owner, simple, hjoin, _, hsplit⟩
  · rw [classOf, if_neg hdot, simpleName_eq_self hdot]
  · have howner : owner ≠ "" := by
      rintro rfl
      rw [hjoin, isQualifiedName_append] at hname
      simp [show isQualifiedName "" = false by decide] at hname
    rw [hsplit] at h
    have hpackage : scope.package = owner := (h.resolve_left howner).symm
    rw [classOf_eq_self (by simp [hjoin]), simpleName, hsplit, member, hpackage, if_neg howner]
    exact hjoin

section Lookup

variable {spelling : String} (hdot : '.' ∉ spelling.toList)
  (hne : spelling ≠ scope.interfaceName)

include hdot

theorem denotes?_interfaceName (heq : spelling = scope.interfaceName) :
    scope.denotes? spelling = some (scope.member spelling) := by
  rw [denotes?, if_neg hdot, if_pos heq]

include hne

theorem denotes?_import (h : scope.imports.filter (simpleName · == spelling) = [name]) :
    scope.denotes? spelling = some name := by
  rw [denotes?, if_neg hdot, if_neg hne, h]

theorem denotes?_member (himports : scope.imports.filter (simpleName · == spelling) = [])
    (hname : name ∈ scope.referenced) (hmember : scope.IsMember spelling name) :
    scope.denotes? spelling = some (scope.member spelling) := by
  rw [denotes?, if_neg hdot, if_neg hne, himports]
  exact if_pos ⟨name, hname, hmember⟩

theorem denotes?_javaLang (himports : scope.imports.filter (simpleName · == spelling) = [])
    (hmember : ∀ other ∈ scope.referenced, ¬ scope.IsMember spelling other) :
    scope.denotes? spelling = some ("java.lang." ++ spelling) := by
  rw [denotes?, if_neg hdot, if_neg hne, himports]
  refine if_neg ?_
  rintro ⟨other, hother, h⟩
  exact hmember other hother h

end Lookup

/-- The scope of a source file that imports what the table for some classes imports. -/
def ofClasses (package interfaceName : String) (classes referenced : List String) : NameScope :=
  ⟨package, interfaceName, (ImportTable.ofClasses package interfaceName classes).imports,
    referenced⟩

section OfClasses

variable {package interfaceName : String} {classes referenced : List String}

private theorem filter_imports_ofClasses (h : name ∈ classes)
    (horigin : ImportTable.origin package name ≠ .elsewhere) :
    (ofClasses package interfaceName classes referenced).imports.filter
      (simpleName · == simpleName name) = [] :=
  ImportTable.filter_imports_eq_nil fun _ hother heq ↦
    (ImportTable.mem_imports hother).2.2.2 name h horigin heq.symm

theorem denotes?_of_mem_implicit (hvalid : isQualifiedName name = true)
    (hreferenced : ∀ c, c ∈ referenced ↔ c ∈ classes)
    (himplicit : name ∈ (ImportTable.ofClasses package interfaceName classes).implicit) :
    (ofClasses package interfaceName classes referenced).denotes? (simpleName name) =
      some ((ofClasses package interfaceName classes referenced).classOf name) := by
  have hdot := not_mem_simpleName name
  obtain ⟨h, hne, horigin⟩ := ImportTable.mem_implicit himplicit
  have hfilter : (ofClasses package interfaceName classes referenced).imports.filter
      (simpleName · == simpleName name) = [] := by
    refine filter_imports_ofClasses h ?_
    rcases horigin with horigin | horigin <;> simp [horigin]
  rcases horigin with horigin | horigin
  · rw [ImportTable.origin_eq_samePackage] at horigin
    rw [classOf_eq_member hvalid horigin]
    exact denotes?_member hdot hne hfilter ((hreferenced name).mpr h) ⟨horigin, rfl⟩
  · have howner := ImportTable.owner_of_javaLang horigin
    have hname : name = "java.lang" ++ "." ++ simpleName name := by
      rw [← howner]
      exact eq_owner_append (by rw [howner]; decide)
    rw [denotes?_javaLang hdot hne hfilter]
    · rw [classOf_eq_self (by rw [hname]; simp)]
      exact congrArg some hname.symm
    · rintro other hother ⟨hlocal, heq⟩
      exact ImportTable.simpleName_ne_of_javaLang himplicit horigin
        ((hreferenced other).mp hother) (ImportTable.origin_eq_samePackage.mpr hlocal) heq

theorem denotes?_of_mem_imports
    (himport : name ∈ (ImportTable.ofClasses package interfaceName classes).imports) :
    (ofClasses package interfaceName classes referenced).denotes? (simpleName name) =
      some ((ofClasses package interfaceName classes referenced).classOf name) := by
  obtain ⟨_, horigin, hne, _⟩ := ImportTable.mem_imports himport
  rw [denotes?_import (not_mem_simpleName name) hne
    (ImportTable.filter_imports_eq_singleton himport),
    classOf_eq_self (ImportTable.mem_of_elsewhere horigin)]

/-- A name without a package that is not shortened is the simple name of the interface or of a
class of its package, and stands for that class anyway. -/
theorem denotes?_self (hreferenced : ∀ c, c ∈ referenced ↔ c ∈ classes) (h : name ∈ classes) :
    (ofClasses package interfaceName classes referenced).denotes? name =
      some ((ofClasses package interfaceName classes referenced).classOf name) := by
  by_cases hdot : '.' ∈ name.toList
  · rw [classOf_eq_self hdot, denotes?, if_pos hdot]
  · have hsimple := simpleName_eq_self hdot
    have howner : (splitQualified name).1 = "" := by rw [splitQualified_eq hdot]
    rw [classOf, if_neg hdot]
    by_cases hne : name = interfaceName
    · exact denotes?_interfaceName hdot hne
    · have hlocal : ImportTable.origin package name = .samePackage :=
        ImportTable.origin_eq_samePackage.mpr (Or.inl howner)
      have hfilter : (ofClasses package interfaceName classes referenced).imports.filter
          (simpleName · == simpleName name) = [] :=
        filter_imports_ofClasses h (by simp [hlocal])
      rw [hsimple] at hfilter
      exact denotes?_member hdot hne hfilter ((hreferenced name).mpr h) ⟨Or.inl howner, hsimple⟩

/-- Every class that a table is made for is in it, and its spelling stands for that class. -/
theorem denotes?_spell? (hclasses : ∀ c ∈ classes, isQualifiedName c = true)
    (hreferenced : ∀ c, c ∈ referenced ↔ c ∈ classes) (h : name ∈ classes) :
    ∃ spelling, (ImportTable.ofClasses package interfaceName classes).spell? name = some spelling ∧
      (ofClasses package interfaceName classes referenced).denotes? spelling =
        some ((ofClasses package interfaceName classes referenced).classOf name) := by
  refine ⟨_, ImportTable.spell?_of_mem h, ?_⟩
  split
  · rename_i hshort
    rcases hshort with himplicit | himport
    · exact denotes?_of_mem_implicit (hclasses name h) hreferenced himplicit
    · exact denotes?_of_mem_imports himport
  · exact denotes?_self hreferenced h

end OfClasses

end NameScope

end Jaxrs
