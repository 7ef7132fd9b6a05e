import Jaxrs.Synthesis
import Jaxrs.Proofs.ArgumentName
import Jaxrs.Proofs.Framework
import Jaxrs.Proofs.Source.Validity
import Jaxrs.Proofs.TypeMapping

/-!
Resources that have a source file. `Resource.Generable` says what a description must have, without a
word on types and parameters: whatever an operation's arguments are called and whatever their
schemas ask for, a method comes out well-formed (`Operation.wellFormed_method`). A resource has a
well-formed interface exactly if it is generable (`Resource.exists_wellFormed_iff`).
-/

set_option autoImplicit false

namespace Jaxrs

/-! ### Verbs -/

/-- Equality of texts but for the case of ASCII letters. -/
def EqualsIgnoringCase (a b : String) : Prop :=
  a.toList.map Char.toLower = b.toList.map Char.toLower

theorem Verb.name_injective : Function.Injective Verb.name := by
  intro v w h
  revert h
  cases v <;> cases w <;> decide

theorem Verb.ofName_eq_ok_iff {s : String} {v : Verb} :
    Verb.ofName s = .ok v ↔ EqualsIgnoringCase s v.name := by
  have hupper : v.name.toList.map Char.toUpper = v.name.toList := by
    cases v <;> decide
  have hname : v.name = String.ofList (s.toList.map Char.toUpper) ↔
      EqualsIgnoringCase s v.name := by
    rw [← String.toList_inj, String.toList_ofList, EqualsIgnoringCase]
    constructor
    · intro h
      rw [h, List.map_map]
      exact (List.map_congr_left fun c _ ↦ Char.toLower_toUpper_eq_toLower c).symm
    · intro h
      have hcongr := congrArg (List.map Char.toUpper) h
      simp only [List.map_map, Function.comp_def, Char.toUpper_toLower_eq_toUpper] at hcongr
      rw [hcongr, hupper]
  have hall : v ∈ all := by cases v <;> decide
  rw [ofName, ← hname]
  cases hfind : all.find? (·.name == String.ofList (s.toList.map Char.toUpper)) with
  | some w =>
    have hw : w.name = String.ofList (s.toList.map Char.toUpper) := by
      simpa using List.find?_some hfind
    rw [← hw, Except.ok.injEq]
    exact ⟨fun h ↦ congrArg Verb.name h.symm, fun h ↦ (name_injective h).symm⟩
  | none =>
    refine iff_of_false (fun h ↦ nomatch h) fun hv ↦ ?_
    have hne := List.find?_eq_none.mp hfind v hall
    rw [hv, beq_self_eq_true] at hne
    exact hne rfl

theorem Verb.exists_ofName_eq_ok_iff {s : String} :
    (∃ v, Verb.ofName s = .ok v) ↔ ∃ v : Verb, EqualsIgnoringCase s v.name := by
  simp only [ofName_eq_ok_iff]

/-! ### Operations -/

/-- The schemas of the arguments and of the response. -/
def Operation.schemas (op : Operation) : List Schema :=
  op.arguments.filterMap Argument.schema ++ (op.response.bind Response.schema).toList

/-- An operation that can become a method. -/
structure Operation.Generable (op : Operation) : Prop where
  verb : ∃ v : Verb, EqualsIgnoringCase op.verb v.name
  name : isIdentifier op.name = true
  annotations : ∀ a ∈ op.arguments, ∀ directive ∈ a.annotations,
    isQualifiedName directive.name = true

/-- A resource that can become an interface. -/
structure Resource.Generable (s : Settings) (r : Resource) : Prop where
  package : r.package = "" ∨ isQualifiedName r.package = true
  name : isIdentifier (ClassName.ofName r.name ++ s.naming.interfaceSuffix) = true
  operations : ∀ op ∈ r.operations, op.Generable
  beans : (∃ op ∈ r.operations, ∃ schema ∈ op.schemas, schema.NamesBean) →
    isQualifiedName s.beanPackage = true

private theorem forall₂_zipWith {α β γ : Type} {f : α → β → γ} {R : α → γ → Prop} {as : List α}
    {bs : List β} (hlength : as.length = bs.length) (h : ∀ a ∈ as, ∀ b ∈ bs, R a (f a b)) :
    List.Forall₂ R as (List.zipWith f as bs) := by
  induction as generalizing bs with
  | nil => simp
  | cons a as ih =>
    cases bs with
    | nil => simp at hlength
    | cons b bs =>
      refine .cons (h a List.mem_cons_self b List.mem_cons_self) ?_
      exact ih (Nat.succ.inj hlength) fun a' ha' b' hb' ↦
        h a' (List.mem_cons_of_mem a ha') b' (List.mem_cons_of_mem b hb')

/-- Something holds of all results if it holds of all that they come from. -/
private theorem forall_mem_zipWith_iff {α β γ : Type} {f : α → β → γ} {P : γ → Prop} {Q : α → Prop}
    {as : List α} {bs : List β} (hlength : as.length = bs.length)
    (h : ∀ a ∈ as, ∀ b ∈ bs, P (f a b) ↔ Q a) :
    (∀ c ∈ List.zipWith f as bs, P c) ↔ ∀ a ∈ as, Q a :=
  forall_mem_iff_of_forall₂ (R := fun a c ↦ P c ↔ Q a) (forall₂_zipWith hlength h)
    fun _ _ _ hiff ↦ hiff

namespace Argument

variable {beanPackage name : String} {framework : Framework} (a : Argument)

theorem qualified_fallbackType : a.fallbackType.Qualified := by
  rw [fallbackType]
  split
  · exact JavaType.qualified_inputStream
  · exact JavaType.qualified_object

theorem isVoid_type : (a.type beanPackage).isVoid = false := by
  refine Schema.isVoid_resolveType ?_
  rw [fallbackType]
  split <;> rfl

/-- The type of an argument is never `void`, so its name decides. -/
theorem wellFormed_parameter_iff :
    (a.parameter beanPackage name).WellFormed ↔ isIdentifier name = true :=
  ⟨fun h ↦ h.name, fun h ↦ ⟨h, a.isVoid_type⟩⟩

theorem qualified_parameter_iff :
    (a.parameter beanPackage name).type.Qualified ↔
      ∀ schema ∈ a.schema, schema.NamesBean → isQualifiedName beanPackage = true :=
  Schema.qualified_resolveType_iff a.qualified_fallbackType

theorem forall_mem_annotationsFor_iff (hframework : framework.Named) :
    (∀ directive ∈ (a.parameter beanPackage name).annotationsFor framework,
        isQualifiedName directive.name = true) ↔
      ∀ directive ∈ a.annotations, isQualifiedName directive.name = true := by
  rw [Parameter.annotationsFor, List.forall_mem_append, List.forall_mem_append]
  refine and_iff_right ⟨fun directive h ↦ ?_, fun directive h ↦ ?_⟩
  · exact hframework.binding _ directive (Option.mem_toList.mp h)
  · obtain ⟨k, _, rfl⟩ := List.mem_map.mp h
    exact hframework.constraint k

end Argument

namespace Operation

variable {s : Settings} {beanPackage : String} {render : String → String} {framework : Framework}
  {op : Operation} {m : Method}

theorem method_eq_ok_iff : op.method s beanPackage render = .ok m ↔
    ∃ v, Verb.ofName op.verb = .ok v ∧ m =
      { name := op.name
        doc := op.description.map render
        path := op.path
        verb := v
        produces := op.produces.getD []
        consumes := op.consumes.getD []
        returnType := op.returnType s beanPackage
        parameters := op.parameters beanPackage } := by
  rw [method, Except.bind_eq_ok_iff]
  constructor
  · rintro ⟨v, hv, hm⟩
    cases hm
    exact ⟨v, hv, rfl⟩
  · rintro ⟨v, hv, rfl⟩
    exact ⟨v, hv, rfl⟩

theorem exists_method_eq_ok_iff (s : Settings) (beanPackage : String) (render : String → String) :
    (∃ m, op.method s beanPackage render = .ok m) ↔
      ∃ v : Verb, EqualsIgnoringCase op.verb v.name := by
  rw [← Verb.exists_ofName_eq_ok_iff]
  constructor
  · rintro ⟨m, hm⟩
    obtain ⟨v, hv, _⟩ := method_eq_ok_iff.mp hm
    exact ⟨v, hv⟩
  · rintro ⟨v, hv⟩
    exact ⟨_, method_eq_ok_iff.mpr ⟨v, hv, rfl⟩⟩

private theorem length_arguments (op : Operation) : op.arguments.length =
    (ArgumentName.allocate (op.arguments.map Argument.name)).length := by
  simp

/-- Parameters come from arguments one by one, whatever names they get. -/
theorem forall₂_parameters {R : Argument → Parameter → Prop} (op : Operation)
    (h : ∀ a ∈ op.arguments, ∀ name, R a (a.parameter beanPackage name)) :
    List.Forall₂ R op.arguments (op.parameters beanPackage) :=
  forall₂_zipWith op.length_arguments fun a ha name _ ↦ h a ha name

theorem wellFormed_parameters (op : Operation) :
    ∀ p ∈ op.parameters beanPackage, p.WellFormed := by
  refine (forall_mem_zipWith_iff (Q := fun _ ↦ True) op.length_arguments ?_).mpr fun _ _ ↦ trivial
  intro a _ name hname
  rw [a.wellFormed_parameter_iff]
  exact iff_true_intro (ArgumentName.isIdentifier_of_mem_allocate hname)

/-- Only the name of an operation can keep its method from being well-formed. -/
theorem wellFormed_method_iff (hm : op.method s beanPackage render = .ok m) :
    m.WellFormed ↔ isIdentifier op.name = true := by
  obtain ⟨v, _, rfl⟩ := method_eq_ok_iff.mp hm
  exact ⟨fun h ↦ h.name, fun h ↦ ⟨h, op.wellFormed_parameters⟩⟩

theorem qualified_returnType_iff : (op.returnType s beanPackage).Qualified ↔
    ∀ schema ∈ op.response.bind Response.schema,
      schema.NamesBean → isQualifiedName beanPackage = true := by
  rw [returnType, Settings.qualified_wrapResult_iff, resultType]
  cases op.response with
  | none => simpa using JavaType.qualified_void
  | some r => exact Schema.qualified_resolveType_iff (Settings.qualified_responseType s)

theorem forall_mem_classNames_iff (hm : op.method s beanPackage render = .ok m) :
    (∀ c ∈ m.classNames, isQualifiedName c = true) ↔
      ∀ schema ∈ op.schemas, schema.NamesBean → isQualifiedName beanPackage = true := by
  obtain ⟨v, _, rfl⟩ := method_eq_ok_iff.mp hm
  have hparameters : (∀ p ∈ op.parameters beanPackage, p.type.Qualified) ↔
      ∀ a ∈ op.arguments, ∀ schema ∈ a.schema,
        schema.NamesBean → isQualifiedName beanPackage = true :=
    forall_mem_zipWith_iff op.length_arguments fun a _ name _ ↦ a.qualified_parameter_iff
  have hschemas : (∀ schema ∈ op.schemas, schema.NamesBean → isQualifiedName beanPackage = true) ↔
      (∀ a ∈ op.arguments, ∀ schema ∈ a.schema,
        schema.NamesBean → isQualifiedName beanPackage = true) ∧
      ∀ schema ∈ op.response.bind Response.schema,
        schema.NamesBean → isQualifiedName beanPackage = true := by
    rw [schemas, List.forall_mem_append]
    simp only [List.mem_filterMap, Option.mem_toList, Option.mem_def]
    refine and_congr_left' ⟨fun h a ha schema hschema ↦ h schema ⟨a, ha, hschema⟩, ?_⟩
    rintro h schema ⟨a, ha, hschema⟩
    exact h a ha schema hschema
  rw [Method.classNames, List.forall_mem_append, List.forall_mem_flatMap, hschemas, ← hparameters,
    and_comm, ← qualified_returnType_iff (s := s)]
  rfl

/-- Only the annotations that an operation brings along can have improper names. -/
theorem forall_mem_annotations_iff (hframework : framework.Named)
    (hm : op.method s beanPackage render = .ok m) :
    (∀ directive ∈ m.annotations framework, isQualifiedName directive.name = true) ↔
      ∀ a ∈ op.arguments, ∀ directive ∈ a.annotations, isQualifiedName directive.name = true := by
  obtain ⟨v, _, rfl⟩ := method_eq_ok_iff.mp hm
  have hparameters : (∀ p ∈ op.parameters beanPackage, ∀ directive ∈ p.annotationsFor framework,
        isQualifiedName directive.name = true) ↔
      ∀ a ∈ op.arguments, ∀ directive ∈ a.annotations, isQualifiedName directive.name = true :=
    forall_mem_zipWith_iff op.length_arguments fun a _ name _ ↦
      a.forall_mem_annotationsFor_iff hframework
  rw [Method.annotations, List.forall_mem_append, List.forall_mem_flatMap, hparameters]
  refine and_iff_right ?_
  exact Method.forall_mem_ownAnnotations hframework.path hframework.verb hframework.produces
    hframework.consumes _

end Operation

/-! ### Resources -/

/-- The path of an interface makes a proper annotation, so its methods decide. -/
theorem Interface.forall_mem_classNames_iff {framework : Framework} {i : Interface}
    (hframework : framework.Named) :
    (∀ c ∈ i.classNames framework, isQualifiedName c = true) ↔
      (∀ m ∈ i.methods, ∀ c ∈ m.classNames, isQualifiedName c = true) ∧
        ∀ m ∈ i.methods, ∀ directive ∈ m.annotations framework,
          isQualifiedName directive.name = true := by
  rw [classNames, List.forall_mem_append, List.forall_mem_flatMap, List.forall_mem_map, annotations,
    List.forall_mem_cons, List.forall_mem_flatMap]
  exact and_congr_right' (and_iff_right (hframework.path i.path))

namespace Resource

variable {s : Settings} {beanPackage : String} {render : String → String} {contextRoot : String}
  {framework : Framework} {r : Resource} {i : Interface}

theorem interface_eq_ok_iff : r.interface s beanPackage render contextRoot = .ok i ↔
    ∃ methods, List.Forall₂ (fun op m ↦ Operation.method s beanPackage render op = .ok m)
        r.operations methods ∧
      i = ⟨r.package, r.interfaceName s, contextRoot ++ r.path, methods⟩ := by
  rw [interface, Except.bind_eq_ok_iff]
  simp only [Except.mapM_eq_ok_iff]
  constructor
  · rintro ⟨methods, hmethods, hi⟩
    cases hi
    exact ⟨methods, hmethods, rfl⟩
  · rintro ⟨methods, hmethods, rfl⟩
    exact ⟨methods, hmethods, rfl⟩

/-- Methods come from operations one by one. -/
theorem forall₂_methods {R : Operation → Method → Prop}
    (h : ∀ op m, Operation.method s beanPackage render op = .ok m → R op m)
    (hi : r.interface s beanPackage render contextRoot = .ok i) :
    List.Forall₂ R r.operations i.methods := by
  obtain ⟨methods, hmethods, rfl⟩ := interface_eq_ok_iff.mp hi
  exact hmethods.imp h

theorem exists_interface_eq_ok_iff :
    (∃ i, r.interface s s.beanPackage render contextRoot = .ok i) ↔
      ∀ op ∈ r.operations, ∃ v : Verb, EqualsIgnoringCase op.verb v.name := by
  simp only [interface_eq_ok_iff, ← Except.mapM_eq_ok_iff]
  simp only [← Operation.exists_method_eq_ok_iff s s.beanPackage render]
  rw [← Except.exists_mapM_eq_ok_iff]
  constructor
  · rintro ⟨i, methods, hmethods, _⟩
    exact ⟨methods, hmethods⟩
  · rintro ⟨methods, hmethods⟩
    exact ⟨_, methods, hmethods, rfl⟩

/-- Nothing is asked of a resource beside what `Generable` says. -/
theorem wellFormed_interface_iff (hframework : framework.Named)
    (hi : r.interface s s.beanPackage render contextRoot = .ok i) :
    i.WellFormed framework ↔ r.Generable s := by
  have hverbs := exists_interface_eq_ok_iff.mp ⟨i, hi⟩
  obtain ⟨methods, hmethods, rfl⟩ := interface_eq_ok_iff.mp hi
  have hnames : (∀ m ∈ methods, m.WellFormed) ↔ ∀ op ∈ r.operations, isIdentifier op.name = true :=
    forall_mem_iff_of_forall₂ hmethods fun op _ m hm ↦ Operation.wellFormed_method_iff hm
  have hclasses : (∀ m ∈ methods, ∀ c ∈ m.classNames, isQualifiedName c = true) ↔
      ∀ op ∈ r.operations, ∀ schema ∈ op.schemas,
        schema.NamesBean → isQualifiedName s.beanPackage = true :=
    forall_mem_iff_of_forall₂ hmethods fun op _ m hm ↦ Operation.forall_mem_classNames_iff hm
  have hannotations : (∀ m ∈ methods, ∀ directive ∈ m.annotations framework,
        isQualifiedName directive.name = true) ↔
      ∀ op ∈ r.operations, ∀ a ∈ op.arguments, ∀ directive ∈ a.annotations,
        isQualifiedName directive.name = true :=
    forall_mem_iff_of_forall₂ hmethods fun op _ m hm ↦
      Operation.forall_mem_annotations_iff hframework hm
  constructor
  · intro h
    have hreferences := h.references
    rw [Interface.forall_mem_classNames_iff hframework, hclasses, hannotations] at hreferences
    obtain ⟨hbeans, hdirectives⟩ := hreferences
    refine ⟨h.package, h.name, fun op hop ↦ ?_, ?_⟩
    · exact ⟨hverbs op hop, hnames.mp h.methods op hop, hdirectives op hop⟩
    · rintro ⟨op, hop, schema, hschema, hbean⟩
      exact hbeans op hop schema hschema hbean
  · intro h
    refine ⟨h.package, h.name, hnames.mpr fun op hop ↦ (h.operations op hop).name, ?_⟩
    rw [Interface.forall_mem_classNames_iff hframework, hclasses, hannotations]
    refine ⟨fun op hop schema hschema hbean ↦ ?_, fun op hop ↦ (h.operations op hop).annotations⟩
    exact h.beans ⟨op, hop, schema, hschema, hbean⟩

theorem exists_wellFormed_iff (hframework : framework.Named) :
    (∃ i, r.interface s s.beanPackage render contextRoot = .ok i ∧ i.WellFormed framework) ↔
      r.Generable s := by
  constructor
  · rintro ⟨i, hi, hvalid⟩
    exact (wellFormed_interface_iff hframework hi).mp hvalid
  · intro h
    have hinterface : ∃ i, r.interface s s.beanPackage render contextRoot = .ok i :=
      exists_interface_eq_ok_iff.mpr fun op hop ↦ (h.operations op hop).verb
    obtain ⟨i, hi⟩ := hinterface
    exact ⟨i, hi, (wellFormed_interface_iff hframework hi).mpr h⟩

end Resource

end Jaxrs
