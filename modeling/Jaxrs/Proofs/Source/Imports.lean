import Jaxrs.Proofs.ImportTable.Selection
import Jaxrs.Proofs.Source.Validity

/-!
The imports of a source file. They are chosen from the set of the classes that the file refers to,
and interfaces with their methods and parameters in another order refer to the same classes
(`Interface.Rearranged.mem_classNames_iff`), so that their files start alike.
`ImportTable.Selection` says which classes are imported and what the choice depends on, and
`ImportTable.selection_ofClasses` that every table is made so.
-/

set_option autoImplicit false

namespace Jaxrs

/-- The same method but for the order of its parameters. -/
structure Method.Rearranged (m m' : Method) : Prop where
  parameters : m.parameters.Perm m'.parameters
  others : m' = { m with parameters := m'.parameters }

/-- The same interface but for the order of its methods and of their parameters. -/
structure Interface.Rearranged (i j : Interface) : Prop where
  methods : ∃ methods, i.methods.Perm methods ∧ List.Forall₂ Method.Rearranged methods j.methods
  others : j = { i with methods := j.methods }

namespace Method.Rearranged

variable {m m' : Method} {framework : Framework} {c : String}

theorem wellFormed_iff (h : m.Rearranged m') : m'.WellFormed ↔ m.WellFormed := by
  have hname : m'.name = m.name := by rw [h.others]
  have hparameters : (∀ p ∈ m'.parameters, p.WellFormed) ↔ ∀ p ∈ m.parameters, p.WellFormed :=
    forall_congr' fun p ↦ imp_congr_left h.parameters.symm.mem_iff
  constructor
  · intro hm
    exact ⟨hname ▸ hm.name, hparameters.mp hm.parameters⟩
  · intro hm
    exact ⟨hname ▸ hm.name, hparameters.mpr hm.parameters⟩

theorem mem_classNames_iff (h : m.Rearranged m') : c ∈ m'.classNames ↔ c ∈ m.classNames := by
  have hreturn : m'.returnType = m.returnType := by rw [h.others]
  rw [Method.classNames, Method.classNames, List.mem_append, List.mem_append, hreturn,
    (h.parameters.flatMap_right (·.type.classNames)).mem_iff]

theorem mem_annotations_iff (h : m.Rearranged m') {a : Annotation} :
    a ∈ m'.annotations framework ↔ a ∈ m.annotations framework := by
  have hown : m'.ownAnnotations framework = m.ownAnnotations framework := by
    rw [h.others]
    rfl
  rw [Method.annotations, Method.annotations, List.mem_append, List.mem_append, hown,
    (h.parameters.flatMap_right (Parameter.annotationsFor framework)).mem_iff]

end Method.Rearranged

namespace Interface.Rearranged

variable {i j : Interface} {framework : Framework} {c : String}

theorem package_eq (h : i.Rearranged j) : j.package = i.package := by
  rw [h.others]

theorem name_eq (h : i.Rearranged j) : j.name = i.name := by
  rw [h.others]

theorem path_eq (h : i.Rearranged j) : j.path = i.path := by
  rw [h.others]

/-- What the order of parameters does not matter to, the order of methods does not matter to. -/
theorem forall_mem_methods_iff (h : i.Rearranged j) {P : Method → Prop}
    (hP : ∀ m m', m.Rearranged m' → (P m' ↔ P m)) :
    (∀ m ∈ j.methods, P m) ↔ ∀ m ∈ i.methods, P m := by
  obtain ⟨methods, hperm, hlist⟩ := h.methods
  rw [forall_mem_iff_of_forall₂ hlist fun m _ m' hm ↦ hP m m' hm]
  exact forall_congr' fun m ↦ imp_congr_left hperm.symm.mem_iff

theorem mem_flatMap_methods_iff {β : Type} {f : Method → List β} {b : β} (h : i.Rearranged j)
    (hf : ∀ m m', m.Rearranged m' → (b ∈ f m' ↔ b ∈ f m)) :
    b ∈ j.methods.flatMap f ↔ b ∈ i.methods.flatMap f := by
  have hnot := h.forall_mem_methods_iff (P := (b ∉ f ·)) fun m m' hm ↦ not_congr (hf m m' hm)
  rw [← not_iff_not, List.mem_flatMap, List.mem_flatMap]
  simpa only [not_exists, not_and] using hnot

theorem mem_classNames_iff (h : i.Rearranged j) :
    c ∈ j.classNames framework ↔ c ∈ i.classNames framework := by
  have hannotations (a : Annotation) :
      a ∈ j.annotations framework ↔ a ∈ i.annotations framework := by
    rw [Interface.annotations, Interface.annotations, List.mem_cons, List.mem_cons, h.path_eq,
      h.mem_flatMap_methods_iff fun _ _ hm ↦ hm.mem_annotations_iff]
  rw [Interface.classNames, Interface.classNames, List.mem_append, List.mem_append, List.mem_map,
    List.mem_map, h.mem_flatMap_methods_iff fun _ _ hm ↦ hm.mem_classNames_iff]
  simp only [hannotations]

theorem wellFormed_iff (h : i.Rearranged j) : j.WellFormed framework ↔ i.WellFormed framework := by
  have hmethods := h.forall_mem_methods_iff fun _ _ hm ↦ hm.wellFormed_iff
  have hreferences : (∀ c ∈ j.classNames framework, isQualifiedName c = true) ↔
      ∀ c ∈ i.classNames framework, isQualifiedName c = true :=
    forall_congr' fun c ↦ imp_congr_left h.mem_classNames_iff
  constructor
  · intro hj
    exact ⟨h.package_eq ▸ hj.package, h.name_eq ▸ hj.name, hmethods.mp hj.methods,
      hreferences.mp hj.references⟩
  · intro hi
    exact ⟨h.package_eq ▸ hi.package, h.name_eq ▸ hi.name, hmethods.mpr hi.methods,
      hreferences.mpr hi.references⟩

theorem importTable_eq (h : i.Rearranged j) :
    j.importTable framework = i.importTable framework := by
  rw [importTable, importTable, h.package_eq, h.name_eq]
  exact ImportTable.ofClasses_congr fun c ↦ h.mem_classNames_iff

end Interface.Rearranged

namespace Interface

/-- How a source file starts: the package clause and the imports. -/
def head (f : Formatter) (package : String) (table : ImportTable) : String :=
  String.join ((preamble package table).map (Line.layout f))

theorem exists_text_eq_head_append (framework : Framework) (f : Formatter) (i : Interface) :
    ∃ rest, i.text framework f = head f i.package (i.importTable framework) ++ rest := by
  rw [text, lines, List.append_assoc, List.append_assoc, List.map_append, String.join_append]
  exact ⟨_, rfl⟩

end Interface

namespace ImportTable

/-- What the import list of a table is made of. The order is that of the lower-cased names, and of
the names where these agree. -/
structure Selection (package interfaceName : String) (classes : List String) : Prop where
  mem_imports : ∀ c, c ∈ (ofClasses package interfaceName classes).imports ↔
    c ∈ classes ∧ Importable package interfaceName classes c ∧
      ∀ other ∈ classes, Importable package interfaceName classes other →
        simpleName other = simpleName c → importKey c ≤ importKey other
  increasing : (ofClasses package interfaceName classes).imports.Pairwise
    fun a b ↦ importKey a < importKey b
  nodup : (ofClasses package interfaceName classes).imports.Nodup
  nodup_simpleName : ((ofClasses package interfaceName classes).imports.map simpleName).Nodup
  /-- There is no third way to spell a class. -/
  fullName : ∀ c ∈ classes,
    (ofClasses package interfaceName classes).spell? c ≠ some (simpleName c) →
      (ofClasses package interfaceName classes).spell? c = some c
  /-- Neither the order of the classes nor how often each occurs matters. -/
  set : ∀ classes', (∀ c, c ∈ classes' ↔ c ∈ classes) →
    ofClasses package interfaceName classes' = ofClasses package interfaceName classes
  /-- The files of an interface that refers to these classes, in whatever order. -/
  rearranged : ∀ (framework : Framework) (f : Formatter) (i j : Interface) (text : String),
    i.package = package → i.name = interfaceName →
      (∀ c, c ∈ i.classNames framework ↔ c ∈ classes) → i.Rearranged j →
        i.render framework f = .ok text →
          ∃ rest text' rest',
            text = Interface.head f package (ofClasses package interfaceName classes) ++ rest ∧
              j.render framework f = .ok text' ∧
                text' = Interface.head f package (ofClasses package interfaceName classes) ++ rest'

/-- Of the classes that may be imported each simple name goes to the first in the order of imports,
and only the set of the classes has a say in that: files that refer to the same classes start
alike. -/
theorem selection_ofClasses (package interfaceName : String) (classes : List String) :
    Selection package interfaceName classes where
  mem_imports _ := mem_imports_iff
  increasing := pairwise_imports package interfaceName classes
  nodup := by
    refine (pairwise_imports package interfaceName classes).imp fun {a b} hlt heq ↦ ?_
    exact lt_irrefl (importKey b) (heq ▸ hlt)
  nodup_simpleName := nodup_shortened
  fullName _ := spell?_eq_self
  set _ := ofClasses_congr
  rearranged framework f i j text hpackage hname hclasses hij htext := by
    have htable : i.importTable framework = ofClasses package interfaceName classes := by
      rw [Interface.importTable, hpackage, hname]
      exact ofClasses_congr hclasses
    obtain ⟨hvalid, rfl⟩ := Interface.render_eq_ok_iff.mp htext
    obtain ⟨rest, hrest⟩ := i.exists_text_eq_head_append framework f
    obtain ⟨rest', hrest'⟩ := j.exists_text_eq_head_append framework f
    rw [htable, hpackage] at hrest
    rw [hij.importTable_eq, htable, hij.package_eq, hpackage] at hrest'
    exact ⟨rest, _, rest', hrest,
      Interface.render_eq_ok_iff.mpr ⟨hij.wellFormed_iff.mpr hvalid, rfl⟩, hrest'⟩

/-- The dates differ in their packages and `apple` in its case; `String` is in scope. -/
example : (ofClasses "org.acme" "Pets"
      ["java.util.Date", "java.sql.Date", "org.Zoo", "org.apple", "lib.Pets", "lib.String",
        "java.lang.String"]).imports =
    ["java.sql.Date", "org.apple", "org.Zoo"] := by
  simp only [ofClasses, sortedNames_eq_insertionSort, mergeSort_importOrder]
  decide +kernel

end ImportTable

end Jaxrs
