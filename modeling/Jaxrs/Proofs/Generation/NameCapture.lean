import Jaxrs.Proofs.Generation
import Jaxrs.Proofs.Source.References

/-!
What the names of a source file stand for in company. An import table is made for one interface, and
the other interfaces of a run are types of their packages as well. `denotes?_withTypes` says what
more types of the package change: only a name that was looked up in `java.lang` can come to stand
for another class, and it does so exactly if one of them has that name. In a run these are the names
that `Interface.Captured` tells, and all other names keep their meaning (`names_of_generate`).
-/

set_option autoImplicit false

namespace Jaxrs

namespace NameScope

/-- The scope with more types known to be there. -/
def withTypes (scope : NameScope) (others : List String) : NameScope :=
  { scope with referenced := scope.referenced ++ others }

/-- Nothing before `java.lang` has the name. -/
structure InJavaLang (scope : NameScope) (spelling : String) : Prop where
  simple : '.' ∉ spelling.toList
  ne_interfaceName : spelling ≠ scope.interfaceName
  imports : scope.imports.filter (simpleName · == spelling) = []
  referenced : ∀ name ∈ scope.referenced, ¬ scope.IsMember spelling name

variable {scope : NameScope} {others : List String} {spelling name : String}

theorem denotes?_withTypes_of_isMember (h : scope.InJavaLang spelling) (hname : name ∈ others)
    (hmember : scope.IsMember spelling name) :
    (scope.withTypes others).denotes? spelling = some (scope.member spelling) :=
  denotes?_member h.simple h.ne_interfaceName h.imports (List.mem_append_right _ hname) hmember

theorem denotes?_withTypes_of_not_isMember (h : ∀ name ∈ others, ¬ scope.IsMember spelling name) :
    (scope.withTypes others).denotes? spelling = scope.denotes? spelling := by
  have hiff : (∃ name ∈ scope.referenced ++ others, scope.IsMember spelling name) ↔
      ∃ name ∈ scope.referenced, scope.IsMember spelling name := by
    simp only [List.mem_append, or_and_right, exists_or]
    refine or_iff_left ?_
    rintro ⟨name, hname, hmember⟩
    exact h name hname hmember
  rw [denotes?, denotes?, withTypes]
  simp only [← hiff]
  rfl

/-- A name that something before `java.lang` has already stands for that. -/
theorem denotes?_withTypes_of_not_inJavaLang (h : ¬ scope.InJavaLang spelling) :
    (scope.withTypes others).denotes? spelling = scope.denotes? spelling := by
  -- The lookup has ended before the new types are asked for, or at a type that was there before.
  by_cases hdot : '.' ∈ spelling.toList
  · rw [denotes?, denotes?, if_pos hdot, if_pos hdot]
  by_cases hname : spelling = scope.interfaceName
  · have hwith : (scope.withTypes others).denotes? spelling = some (scope.member spelling) :=
      denotes?_interfaceName hdot hname
    rw [hwith, denotes?_interfaceName hdot hname]
  cases himports : scope.imports.filter (simpleName · == spelling) with
  | cons first rest =>
    simp only [denotes?, withTypes, if_neg hdot, if_neg hname, himports]
    cases rest <;> rfl
  | nil =>
    have hmember : ∃ name ∈ scope.referenced, scope.IsMember spelling name := by
      by_contra hnone
      exact h ⟨hdot, hname, himports, fun name hmem hmember ↦ hnone ⟨name, hmem, hmember⟩⟩
    obtain ⟨name, hmem, hmember⟩ := hmember
    have hwith : (scope.withTypes others).denotes? spelling = some (scope.member spelling) :=
      denotes?_member hdot hname himports (List.mem_append_left _ hmem) hmember
    rw [hwith, denotes?_member hdot hname himports hmem hmember]

/-- More types of the package take away names of `java.lang`, and no other names. -/
theorem denotes?_withTypes (scope : NameScope) (others : List String) (spelling : String) :
    ((scope.InJavaLang spelling ∧ ∃ name ∈ others, scope.IsMember spelling name) →
        (scope.withTypes others).denotes? spelling = some (scope.member spelling)) ∧
      (¬ (scope.InJavaLang spelling ∧ ∃ name ∈ others, scope.IsMember spelling name) →
        (scope.withTypes others).denotes? spelling = scope.denotes? spelling) := by
  constructor
  · rintro ⟨h, name, hname, hmember⟩
    exact denotes?_withTypes_of_isMember h hname hmember
  · intro h
    by_cases hlang : scope.InJavaLang spelling
    · exact denotes?_withTypes_of_not_isMember fun name hname hmember ↦
        h ⟨hlang, name, hname, hmember⟩
    · exact denotes?_withTypes_of_not_inJavaLang hlang

section OfClasses

variable {package interfaceName : String} {classes referenced : List String}

/-- A class from elsewhere has an import in front of its simple name, or else its full name. -/
theorem not_inJavaLang_of_elsewhere (h : name ∈ classes)
    (horigin : ImportTable.origin package name = .elsewhere)
    (hspelling :
      (ImportTable.ofClasses package interfaceName classes).spell? name = some spelling) :
    ¬ (ofClasses package interfaceName classes referenced).InJavaLang spelling := by
  intro hlang
  rw [ImportTable.spell?_of_mem h, Option.some.injEq] at hspelling
  split at hspelling
  · rename_i hshort
    rcases hshort with himplicit | himport
    · have hlocal := (ImportTable.mem_implicit himplicit).2.2
      rw [horigin] at hlocal
      simp at hlocal
    · have hnone := hlang.imports
      rw [← hspelling, ofClasses, ImportTable.filter_imports_eq_singleton himport] at hnone
      cases hnone
  · exact hlang.simple (hspelling ▸ ImportTable.mem_of_elsewhere horigin)

theorem mem_implicit_of_javaLang (h : name ∈ classes)
    (horigin : ImportTable.origin package name = .javaLang)
    (hspelling : (ImportTable.ofClasses package interfaceName classes).spell? name =
      some (simpleName name)) :
    name ∈ (ImportTable.ofClasses package interfaceName classes).implicit := by
  rw [ImportTable.spell?_of_mem h, Option.some.injEq] at hspelling
  split at hspelling
  · rename_i hshort
    refine hshort.resolve_right fun himport ↦ ?_
    rw [(ImportTable.mem_imports himport).2.1] at horigin
    cases horigin
  · refine absurd (ImportTable.mem_of_javaLang horigin) ?_
    rw [hspelling]
    exact not_mem_simpleName name

/-- The spellings that are looked up in `java.lang` are the simple names of its classes. -/
theorem inJavaLang_spelling_iff (hreferenced : ∀ c, c ∈ referenced ↔ c ∈ classes)
    (h : name ∈ classes)
    (hspelling :
      (ImportTable.ofClasses package interfaceName classes).spell? name = some spelling) :
    (ofClasses package interfaceName classes referenced).InJavaLang spelling ↔
      ImportTable.origin package name = .javaLang ∧ spelling = simpleName name := by
  have hcases := hspelling
  rw [ImportTable.spell?_of_mem h, Option.some.injEq] at hcases
  constructor
  · intro hlang
    have hsimple : spelling = simpleName name := by
      split at hcases
      · exact hcases.symm
      · have hdot := hlang.simple
        rw [← hcases] at hdot ⊢
        exact (simpleName_eq_self hdot).symm
    refine ⟨?_, hsimple⟩
    cases horigin : ImportTable.origin package name with
    | javaLang => rfl
    | samePackage =>
      have hmember := hlang.referenced name ((hreferenced name).mpr h)
      exact absurd ⟨ImportTable.origin_eq_samePackage.mp horigin, hsimple.symm⟩ hmember
    | elsewhere => exact absurd hlang (not_inJavaLang_of_elsewhere h horigin hspelling)
  · rintro ⟨horigin, rfl⟩
    obtain ⟨_, hne, _⟩ := ImportTable.mem_implicit (mem_implicit_of_javaLang h horigin hspelling)
    refine ⟨not_mem_simpleName name, hne, ?_, ?_⟩
    · refine ImportTable.filter_imports_eq_nil fun other hother heq ↦ ?_
      exact (ImportTable.mem_imports hother).2.2.2 name h (by simp [horigin]) heq.symm
    · rintro other hother ⟨hlocal, heq⟩
      exact ImportTable.simpleName_ne_of_javaLang (mem_implicit_of_javaLang h horigin hspelling)
        horigin ((hreferenced other).mp hother) (ImportTable.origin_eq_samePackage.mpr hlocal) heq

end OfClasses

end NameScope

/-! ### Interfaces in company -/

namespace Interface

variable {framework : Framework} {run : List Interface} {i j : Interface} {c spelling : String}

theorem splitQualified_qualifiedName (h : '.' ∉ j.name.toList) :
    splitQualified j.qualifiedName = (j.package, j.name) := by
  rw [qualifiedName]
  split
  · rename_i hempty
    rw [splitQualified_eq h, String.isEmpty_iff.mp hempty]
  · exact splitQualified_append j.package h

/-- The interfaces of a run that are types of the interface's package. -/
def companions (run : List Interface) (i : Interface) : List String :=
  (run.filter (·.package = i.package)).map qualifiedName

/-- The scope of the source file when the interfaces of the whole run are there. -/
def runScope (framework : Framework) (run : List Interface) (i : Interface) : NameScope :=
  (i.scope framework).withTypes (companions run i)

/-- A class of `java.lang` that goes by its simple name, which an interface of the package has. -/
structure Captured (framework : Framework) (run : List Interface) (i : Interface) (c : String) :
    Prop where
  javaLang : ImportTable.origin i.package c = .javaLang
  short : (i.importTable framework).spell? c = some (simpleName c)
  taken : ∃ j ∈ run, j.package = i.package ∧ j.name = simpleName c

instance (framework : Framework) (run : List Interface) (i : Interface) (c : String) :
    Decidable (i.Captured framework run c) :=
  decidable_of_iff (ImportTable.origin i.package c = .javaLang ∧
      (i.importTable framework).spell? c = some (simpleName c) ∧
      ∃ j ∈ run, j.package = i.package ∧ j.name = simpleName c)
    ⟨fun h ↦ ⟨h.1, h.2.1, h.2.2⟩, fun h ↦ ⟨h.javaLang, h.short, h.taken⟩⟩

theorem exists_isMember_companions_iff (hrun : ∀ j ∈ run, j.WellFormed framework) :
    (∃ name ∈ companions run i, (i.scope framework).IsMember spelling name) ↔
      ∃ j ∈ run, j.package = i.package ∧ j.name = spelling := by
  have hsplit {j : Interface} (hj : j ∈ run) :
      splitQualified j.qualifiedName = (j.package, j.name) :=
    splitQualified_qualifiedName (not_mem_of_isIdentifier (hrun j hj).name (by decide))
  constructor
  · rintro ⟨name, hname, _, hsimple⟩
    obtain ⟨j, hj, rfl⟩ := List.mem_map.mp hname
    obtain ⟨hmem, hpackage⟩ := List.mem_filter.mp hj
    rw [simpleName, hsplit hmem] at hsimple
    exact ⟨j, hmem, by simpa using hpackage, hsimple⟩
  · rintro ⟨j, hj, hpackage, hname⟩
    refine ⟨j.qualifiedName, List.mem_map_of_mem (List.mem_filter.mpr ⟨hj, by simp [hpackage]⟩), ?_⟩
    rw [NameScope.IsMember, simpleName, hsplit hj]
    exact ⟨Or.inr hpackage, hname⟩

/-- The class that captures another one is not it. -/
theorem member_ne_of_javaLang (h : ImportTable.origin i.package c = .javaLang) :
    (i.scope framework).member (simpleName c) ≠ (i.scope framework).classOf c := by
  rw [NameScope.classOf_eq_self (ImportTable.mem_of_javaLang h)]
  intro heq
  have hlocal : ImportTable.origin i.package c = .samePackage := by
    rw [ImportTable.origin_eq_samePackage, ← heq, NameScope.member]
    split
    · exact Or.inl (congrArg Prod.fst (splitQualified_eq (not_mem_simpleName c)))
    · exact Or.inr (congrArg Prod.fst (splitQualified_append _ (not_mem_simpleName c)))
  rw [h] at hlocal
  cases hlocal

/-- A name of a source file stands for its class in company as well, unless that class is captured.
A captured one gives way to the interface with its name. -/
theorem denotes?_runScope (hrun : ∀ j ∈ run, j.WellFormed framework)
    (hi : i.WellFormed framework) (hc : c ∈ i.references framework) :
    ∃ spelling, (i.importTable framework).spell? c = some spelling ∧
      ((i.runScope framework run).denotes? spelling = some ((i.scope framework).classOf c) ↔
        ¬ i.Captured framework run c) ∧
      (i.Captured framework run c → (i.runScope framework run).denotes? spelling =
        some ((i.scope framework).member (simpleName c))) := by
  have halone : ∃ spelling, (i.importTable framework).spell? c = some spelling ∧
      (i.scope framework).denotes? spelling = some ((i.scope framework).classOf c) :=
    NameScope.denotes?_spell? hi.references (fun _ ↦ mem_references) (mem_references.mp hc)
  obtain ⟨spelling, hspelling, halone⟩ := halone
  have hlang : (i.scope framework).InJavaLang spelling ↔
      ImportTable.origin i.package c = .javaLang ∧ spelling = simpleName c :=
    NameScope.inJavaLang_spelling_iff (fun _ ↦ mem_references) (mem_references.mp hc) hspelling
  have hcaptured : ((i.scope framework).InJavaLang spelling ∧
      ∃ name ∈ companions run i, (i.scope framework).IsMember spelling name) ↔
        i.Captured framework run c := by
    rw [hlang, exists_isMember_companions_iff hrun]
    constructor
    · rintro ⟨⟨horigin, rfl⟩, htaken⟩
      exact ⟨horigin, hspelling, htaken⟩
    · rintro ⟨horigin, hshort, htaken⟩
      rw [hspelling, Option.some.injEq] at hshort
      exact ⟨⟨horigin, hshort⟩, hshort ▸ htaken⟩
  have htypes := NameScope.denotes?_withTypes (i.scope framework) (companions run i) spelling
  rw [hcaptured, halone] at htypes
  have htaken : i.Captured framework run c → (i.runScope framework run).denotes? spelling =
      some ((i.scope framework).member (simpleName c)) := by
    intro h
    have heq := h.short
    rw [hspelling, Option.some.injEq] at heq
    exact heq ▸ htypes.1 h
  refine ⟨spelling, hspelling, ⟨fun hdenotes h ↦ ?_, htypes.2⟩, htaken⟩
  rw [htaken h, Option.some.injEq] at hdenotes
  exact member_ne_of_javaLang h.javaLang hdenotes

theorem content_of_sourceFile {f : Formatter} {file : SourceFile}
    (h : i.sourceFile framework f = .ok file) :
    file.content = String.join ((i.template framework).map fun t ↦
      (t.line (i.importTable framework).spell).layout f) := by
  obtain ⟨content, hcontent, hfile⟩ := Except.bind_eq_ok_iff.mp h
  cases hfile
  obtain ⟨_, rfl⟩ := render_eq_ok_iff.mp (Except.mapError_eq_ok_iff.mp hcontent)
  rw [Interface.text, ← map_line_template, List.map_map]
  rfl

end Interface

/-! ### The interfaces of a run -/

/-- A relation through something between is one through a list of such things. -/
private theorem exists_forall₂_between {α β γ : Type} {R : α → β → Prop} {S : β → γ → Prop}
    {as : List α} {cs : List γ} (h : List.Forall₂ (fun a c ↦ ∃ b, R a b ∧ S b c) as cs) :
    ∃ bs, List.Forall₂ R as bs ∧ List.Forall₂ S bs cs := by
  induction h with
  | nil => exact ⟨[], .nil, .nil⟩
  | cons hfirst _ ih =>
    obtain ⟨b, hab, hbc⟩ := hfirst
    obtain ⟨bs, habs, hbcs⟩ := ih
    exact ⟨b :: bs, .cons hab habs, .cons hbc hbcs⟩

namespace Settings

variable {s : Settings} {framework : Framework} {render : String → String} {api : Api}
  {files : List SourceFile}

theorem exists_run_of_generate (h : s.generate framework render api = .ok files) :
    ∃ run, List.Forall₂ (fun r i ↦ r.interface s s.beanPackage render api.contextRoot = .ok i)
        api.resources run ∧
      List.Forall₂ (fun i file ↦ i.sourceFile framework s.formatter = .ok file) run files := by
  obtain ⟨_, hfiles⟩ := generate_eq_ok_iff.mp h
  exact exists_forall₂_between (hfiles.imp fun _ _ hfile ↦ Except.bind_eq_ok_iff.mp hfile)

/-- A name of a generated source stands for the class that is meant by it, with all interfaces of
the run taken into account, unless that is a class of `java.lang` and an interface of the same
package has its simple name. -/
theorem names_of_generate (h : s.generate framework render api = .ok files) :
    ∃ run, List.Forall₂ (fun r i ↦ r.interface s s.beanPackage render api.contextRoot = .ok i)
        api.resources run ∧
      List.Forall₂ (fun i file ↦ file.content = String.join ((i.template framework).map fun t ↦
        (t.line (i.importTable framework).spell).layout s.formatter)) run files ∧
      ∀ i ∈ run, (i.template framework).flatMap Template.references = i.references framework ∧
        ∀ c ∈ i.references framework, ∃ spelling,
          (i.importTable framework).spell? c = some spelling ∧
          ((i.runScope framework run).denotes? spelling = some ((i.scope framework).classOf c) ↔
            ¬ i.Captured framework run c) ∧
          (i.Captured framework run c → (i.runScope framework run).denotes? spelling =
            some ((i.scope framework).member (simpleName c))) := by
  obtain ⟨run, hrun, hfiles⟩ := exists_run_of_generate h
  have hvalid : ∀ i ∈ run, i.WellFormed framework := by
    have hall := Except.exists_mapM_eq_ok_iff.mp ⟨files, Except.mapM_eq_ok_iff.mpr hfiles⟩
    exact fun i hi ↦ Interface.exists_sourceFile_eq_ok_iff.mp (hall i hi)
  refine ⟨run, hrun, hfiles.imp fun _ _ ↦ Interface.content_of_sourceFile, fun i hi ↦ ?_⟩
  exact ⟨Interface.references_template,
    fun c hc ↦ Interface.denotes?_runScope hvalid (hvalid i hi) hc⟩

/-- A resource that is called as a class of `java.lang` is, in some package, and one that answers
with that class. -/
def strings (package : String) : Api where
  name := "strings"
  version := none
  contextRoot := ""
  resources :=
    [⟨package, "string", "/strings", []⟩,
     ⟨"org.acme.api", "pet", "/pets",
      [{ name := "name"
         path := none
         verb := "get"
         description := none
         produces := none
         consumes := none
         async := none
         arguments := []
         response := some ⟨some (.value ⟨.one .string, none, none, none, none, none, none⟩)⟩ }]⟩]

private theorem exists_generate_strings {package : String} (h : isQualifiedName package = true) :
    ∃ files, ({} : Settings).generate (.jaxrs .jakarta) id (strings package) = .ok files := by
  have hname : isIdentifier (ClassName.ofName "string" ++ "") = true := by decide +kernel
  refine (exists_generate_eq_ok_iff (Framework.jaxrs_named .jakarta)).mpr
    ⟨by decide +kernel, List.forall_mem_cons.mpr ⟨?_, List.forall_mem_singleton.mpr ?_⟩⟩
  · exact ⟨Or.inr h, hname, fun _ hop ↦ (nomatch hop), fun ⟨_, hop, _⟩ ↦ nomatch hop⟩
  · refine ⟨Or.inr (by decide +kernel), by decide +kernel, ?_, fun _ ↦ by decide +kernel⟩
    refine List.forall_mem_singleton.mpr ⟨⟨.get, ?_⟩, by decide +kernel, fun _ ha ↦ nomatch ha⟩
    rw [EqualsIgnoringCase]
    decide +kernel

/-- The interface of the second resource. -/
def pet : Interface where
  package := "org.acme.api"
  name := "Pet"
  path := "/pets"
  methods := [
    { name := "name"
      doc := none
      path := none
      verb := .get
      produces := []
      consumes := []
      returnType := .plain "java.lang.String"
      parameters := [] }]

/-- In two packages the names do not meet. -/
theorem names_of_generate_strings : ∃ files run,
    ({} : Settings).generate (.jaxrs .jakarta) id (strings "org.acme.text") = .ok files ∧
      run = [⟨"org.acme.text", "String", "/strings", []⟩, pet] ∧
      ∀ i ∈ run, ∀ c ∈ Interface.references (.jaxrs .jakarta) i, ∃ spelling,
        (i.importTable (.jaxrs .jakarta)).spell? c = some spelling ∧
          (i.runScope (.jaxrs .jakarta) run).denotes? spelling =
            some ((i.scope (.jaxrs .jakarta)).classOf c) := by
  have hpackage : isQualifiedName "org.acme.text" = true := by decide +kernel
  obtain ⟨files, h⟩ := exists_generate_strings hpackage
  obtain ⟨run, hrun, _, hnames⟩ := names_of_generate h
  have hinterfaces : run = [⟨"org.acme.text", "String", "/strings", []⟩, pet] := by
    have hok := Except.mapM_eq_ok_iff.mpr hrun
    exact (Except.ok.inj hok).symm
  have hfree : ∀ i ∈ run, ∀ c ∈ Interface.references (.jaxrs .jakarta) i,
      ¬ ∃ j ∈ run, j.package = i.package ∧ j.name = simpleName c := by
    rw [hinterfaces]
    decide +kernel
  refine ⟨files, run, h, hinterfaces, fun i hi c hc ↦ ?_⟩
  obtain ⟨spelling, hspelling, hiff, _⟩ := (hnames i hi).2 c hc
  exact ⟨spelling, hspelling, hiff.mpr fun hcaptured ↦ hfree i hi c hc hcaptured.taken⟩

/-- In one package the class of `java.lang` is captured. -/
theorem captured_strings :
    (∃ files, ({} : Settings).generate (.jaxrs .jakarta) id (strings "org.acme.api") = .ok files) ∧
      (strings "org.acme.api").resources.mapM
          (Resource.interface {} "org.openapi.quarkus.beans" id "") =
        .ok [⟨"org.acme.api", "String", "/strings", []⟩, pet] ∧
      "java.lang.String" ∈ pet.references (.jaxrs .jakarta) ∧
      (pet.importTable (.jaxrs .jakarta)).spell? "java.lang.String" = some "String" ∧
      (pet.runScope (.jaxrs .jakarta) [⟨"org.acme.api", "String", "/strings", []⟩, pet]).denotes?
        "String" = some "org.acme.api.String" := by
  refine ⟨exists_generate_strings (by decide +kernel), rfl, by decide +kernel, ?_⟩
  simp only [Interface.runScope, Interface.scope, Interface.importTable, ImportTable.ofClasses,
    sortedNames_eq_insertionSort, ImportTable.mergeSort_importOrder]
  decide +kernel

end Settings

end Jaxrs
