import Jaxrs.Source
import Jaxrs.Proofs.Except
import Jaxrs.Proofs.ImportTable
import Mathlib.Tactic.Tauto

/-!
Interfaces that have a source file. `Interface.WellFormed` says what the checks let through, without
their order, and `render_eq_ok_iff` that an interface is rendered exactly then. The text itself,
`Interface.text`, is there for every interface.
-/

set_option autoImplicit false

namespace Jaxrs

structure Parameter.WellFormed (p : Parameter) : Prop where
  name : isIdentifier p.name = true
  type : p.type.isVoid = false

structure Method.WellFormed (m : Method) : Prop where
  name : isIdentifier m.name = true
  parameters : ∀ p ∈ m.parameters, p.WellFormed

/-- An interface that can be written as Java; `references` covers the annotations as well. -/
structure Interface.WellFormed (framework : Framework) (i : Interface) : Prop where
  package : i.package = "" ∨ isQualifiedName i.package = true
  name : isIdentifier i.name = true
  methods : ∀ m ∈ i.methods, m.WellFormed
  references : ∀ c ∈ i.classNames framework, isQualifiedName c = true

instance (p : Parameter) : Decidable p.WellFormed :=
  decidable_of_iff (isIdentifier p.name = true ∧ p.type.isVoid = false)
    ⟨fun h ↦ ⟨h.1, h.2⟩, fun h ↦ ⟨h.name, h.type⟩⟩

instance (m : Method) : Decidable m.WellFormed :=
  decidable_of_iff (isIdentifier m.name = true ∧ ∀ p ∈ m.parameters, p.WellFormed)
    ⟨fun h ↦ ⟨h.1, h.2⟩, fun h ↦ ⟨h.name, h.parameters⟩⟩

instance (framework : Framework) (i : Interface) : Decidable (i.WellFormed framework) :=
  decidable_of_iff ((i.package = "" ∨ isQualifiedName i.package = true) ∧
      isIdentifier i.name = true ∧ (∀ m ∈ i.methods, m.WellFormed) ∧
      ∀ c ∈ i.classNames framework, isQualifiedName c = true)
    ⟨fun h ↦ ⟨h.1, h.2.1, h.2.2.1, h.2.2.2⟩,
      fun h ↦ ⟨h.package, h.name, h.methods, h.references⟩⟩

theorem Parameter.check_eq_ok_iff {owner : String} {p : Parameter} :
    p.check owner = .ok () ↔ p.WellFormed := by
  rw [Parameter.check]
  simp only [Except.throw_if_bind_eq_ok_iff, Except.throw_if_eq_ok_iff, Bool.not_eq_true',
    Bool.not_eq_false, Bool.not_eq_true]
  exact ⟨fun h ↦ ⟨h.1, h.2⟩, fun h ↦ ⟨h.name, h.type⟩⟩

theorem Method.check_eq_ok_iff {owner : String} {m : Method} :
    m.check owner = .ok () ↔ m.WellFormed := by
  rw [Method.check]
  simp only [Except.throw_if_bind_eq_ok_iff, Except.forM_eq_ok_iff, Parameter.check_eq_ok_iff,
    Bool.not_eq_true', Bool.not_eq_false]
  exact ⟨fun h ↦ ⟨h.1, h.2⟩, fun h ↦ ⟨h.name, h.parameters⟩⟩

/-- What holds of all annotations of a framework holds of a method's own. -/
theorem Method.forall_mem_ownAnnotations {framework : Framework} {P : Annotation → Prop}
    (hpath : ∀ path, P (framework.path path)) (hverb : ∀ v, P (framework.verb v))
    (hproduces : ∀ types, P (framework.produces types))
    (hconsumes : ∀ types, P (framework.consumes types)) (m : Method) :
    ∀ a ∈ m.ownAnnotations framework, P a := by
  rw [Method.ownAnnotations, List.forall_mem_append, List.forall_mem_append, List.forall_mem_append]
  refine ⟨⟨⟨fun a ha ↦ ?_, ?_⟩, ?_⟩, ?_⟩
  · obtain ⟨path, _, rfl⟩ := Option.map_eq_some_iff.mp (Option.mem_toList.mp ha)
    exact hpath path
  · exact List.forall_mem_singleton.mpr (hverb m.verb)
  · split
    · exact List.forall_mem_nil P
    · exact List.forall_mem_singleton.mpr (hproduces m.produces)
  · split
    · exact List.forall_mem_nil P
    · exact List.forall_mem_singleton.mpr (hconsumes m.consumes)

namespace Interface

variable {framework : Framework} {i : Interface}

theorem check_eq_ok_iff :
    i.check = .ok () ↔ (i.package = "" ∨ isQualifiedName i.package = true) ∧
      isIdentifier i.name = true ∧ ∀ m ∈ i.methods, m.WellFormed := by
  rw [Interface.check]
  simp only [Except.throw_if_bind_eq_ok_iff, Except.forM_eq_ok_iff, Method.check_eq_ok_iff,
    Bool.not_eq_true', Bool.not_eq_false, Bool.and_eq_true, not_and]
  have hpackage : (i.package.isEmpty = false → isQualifiedName i.package = true) ↔
      (i.package = "" ∨ isQualifiedName i.package = true) := by
    rw [← Bool.not_eq_true, String.isEmpty_iff]
    tauto
  rw [hpackage]

theorem mem_classNames_of_mem_annotations {a : Annotation} (ha : a ∈ i.annotations framework) :
    a.name ∈ i.classNames framework :=
  List.mem_append_right _ (List.mem_map_of_mem ha)

theorem checkReferences_eq_ok_iff :
    i.checkReferences framework = .ok () ↔
      ∀ c ∈ i.classNames framework, isQualifiedName c = true := by
  rw [checkReferences]
  cases hannotation : (i.annotations framework).find? (!isQualifiedName ·.name) with
  | some a =>
    refine ⟨fun h ↦ (nomatch h), fun h ↦ ?_⟩
    have ha := h a.name (mem_classNames_of_mem_annotations (List.mem_of_find?_eq_some hannotation))
    simpa [ha] using List.find?_some hannotation
  | none =>
    cases hclass : (sortedNames (i.classNames framework)).find? (!isQualifiedName ·) with
    | some c =>
      refine ⟨fun h ↦ (nomatch h), fun h ↦ ?_⟩
      have hc := h c (mem_sortedNames.mp (List.mem_of_find?_eq_some hclass))
      simpa [hc] using List.find?_some hclass
    | none =>
      refine ⟨fun _ c hc ↦ ?_, fun _ ↦ rfl⟩
      simpa using List.find?_eq_none.mp hclass c (mem_sortedNames.mpr hc)

theorem source_eq_ok_iff {lines : List Line} :
    i.source framework = .ok lines ↔ i.WellFormed framework ∧ lines = i.lines framework := by
  rw [source]
  simp only [Except.bind_eq_ok_iff]
  constructor
  · rintro ⟨_, hcheck, _, hreferences, hlines⟩
    obtain ⟨hpackage, hname, hmethods⟩ := check_eq_ok_iff.mp hcheck
    cases hlines
    exact ⟨⟨hpackage, hname, hmethods, checkReferences_eq_ok_iff.mp hreferences⟩, rfl⟩
  · rintro ⟨h, rfl⟩
    exact ⟨(), check_eq_ok_iff.mpr ⟨h.package, h.name, h.methods⟩, (),
      checkReferences_eq_ok_iff.mpr h.references, rfl⟩

/-- The text of a source file, whether or not the interface is well-formed. -/
def text (framework : Framework) (f : Formatter) (i : Interface) : String :=
  String.join ((i.lines framework).map (Line.layout f))

theorem render_eq_ok_iff {f : Formatter} {text : String} :
    i.render framework f = .ok text ↔ i.WellFormed framework ∧ text = i.text framework f := by
  rw [render, Except.bind_eq_ok_iff]
  constructor
  · rintro ⟨lines, hlines, htext⟩
    obtain ⟨h, rfl⟩ := source_eq_ok_iff.mp hlines
    cases htext
    exact ⟨h, rfl⟩
  · rintro ⟨h, rfl⟩
    exact ⟨_, source_eq_ok_iff.mpr ⟨h, rfl⟩, rfl⟩

theorem exists_render_eq_ok_iff {f : Formatter} :
    (∃ text, i.render framework f = .ok text) ↔ i.WellFormed framework :=
  ⟨fun ⟨_, h⟩ ↦ (render_eq_ok_iff.mp h).1, fun h ↦ ⟨_, render_eq_ok_iff.mpr ⟨h, rfl⟩⟩⟩

end Interface

end Jaxrs
