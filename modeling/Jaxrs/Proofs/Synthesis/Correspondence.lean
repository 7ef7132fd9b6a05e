import Jaxrs.Proofs.ArgumentName.Allocation

/-!
What of a description is in its interface. A method stands for the operation at its place and a
parameter for the argument at its place (`Resource.corresponds_interface`). A parameter is bound
under the name that the description has for it, whatever its own name is, and it starts with a
not-null constraint if and only if a value that the request has to bring along could still be null.
-/

set_option autoImplicit false

namespace Jaxrs

/-- What an argument of a name is bound to, by its location. -/
inductive Location.Binds (name : String) : Location → Binding → Prop
  | path : Binds name .path (.path name)
  | query : Binds name .query (.query name)
  | header : Binds name .header (.header name)
  | cookie : Binds name .cookie (.cookie name)
  | body : Binds name .body .unbound
  | unclassified (other : String) : Binds name (.unclassified other) .unbound

/-- The parameter stands for the argument; nothing is said of the name that it has in the method. -/
structure Argument.Corresponds (beanPackage : String) (a : Argument) (p : Parameter) : Prop where
  type : p.type = Schema.resolveType beanPackage a.schema a.required a.fallbackType
  binding : a.location.Binds a.name p.binding
  notNull_iff : .notNull ∈ p.constraints ↔
    a.required = true ∧ a.location ≠ .path ∧ p.type.isPrimitive = false
  notNull_first : .notNull ∈ p.constraints →
    p.constraints.head? = some .notNull ∧ p.constraints.count .notNull = 1
  others : p.constraints.filter (· ≠ .notNull) = Schema.constraints a.schema
  annotations : p.annotations = a.annotations

/-- The method stands for the operation. -/
structure Operation.Corresponds (beanPackage : String) (render : String → String) (op : Operation)
    (m : Method) : Prop where
  name : m.name = op.name
  doc : m.doc = op.description.map render
  path : m.path = op.path
  verb : EqualsIgnoringCase op.verb m.verb.name
  produces : m.produces = op.produces.getD []
  consumes : m.consumes = op.consumes.getD []
  names : m.parameters.map Parameter.name = ArgumentName.allocate (op.arguments.map Argument.name)
  parameters : List.Forall₂ (Argument.Corresponds beanPackage) op.arguments m.parameters

/-! ### Constraints -/

theorem Number.bind_bound?_ne_notNull {bound : Option Number} {integral : Bool}
    {whole : Int → Constraint} {decimal : String → Constraint}
    (hwhole : ∀ i, whole i ≠ .notNull) (hdecimal : ∀ s, decimal s ≠ .notNull) :
    bound.bind (Number.bound? integral whole decimal) ≠ some .notNull := by
  intro h
  obtain ⟨n, _, hn⟩ := Option.bind_eq_some_iff.mp h
  unfold bound? at hn
  split at hn
  · exact hwhole _ (Option.some.inj hn)
  · obtain ⟨s, _, hs⟩ := Option.map_eq_some_iff.mp hn
    exact hdecimal s hs

theorem Constraint.notNull_not_mem_sizes (min max : Option Nat) :
    Constraint.notNull ∉ Constraint.sizes min max := by
  rw [sizes]
  split <;> simp

/-- What a schema says of a value it says of a value that is there. -/
theorem Schema.notNull_not_mem_constraints (schema : Option Schema) :
    .notNull ∉ Schema.constraints schema := by
  unfold constraints
  split
  · rename_i v
    have hminimum : v.minimum.bind (Number.bound? v.isIntegral .min .decimalMin) ≠ some .notNull :=
      Number.bind_bound?_ne_notNull (by simp) (by simp)
    have hmaximum : v.maximum.bind (Number.bound? v.isIntegral .max .decimalMax) ≠ some .notNull :=
      Number.bind_bound?_ne_notNull (by simp) (by simp)
    have hsizes := Constraint.notNull_not_mem_sizes v.minLength v.maxLength
    simp [ValueSchema.constraints, hminimum, hmaximum, hsizes]
  · exact Constraint.notNull_not_mem_sizes _ _
  · exact List.not_mem_nil

/-! ### Arguments and operations -/

namespace Argument

variable {beanPackage : String} (a : Argument)

theorem binds_binding : a.location.Binds a.name a.binding := by
  rw [binding]
  cases a.location <;> constructor

theorem constraints_parameter (name : String) :
    (a.parameter beanPackage name).constraints =
      (if a.needsNotNull (a.type beanPackage) then [.notNull] else []) ++
        Schema.constraints a.schema := rfl

theorem needsNotNull_iff {type : JavaType} : a.needsNotNull type = true ↔
    a.required = true ∧ a.location ≠ .path ∧ type.isPrimitive = false := by
  simp [needsNotNull, and_assoc]

theorem corresponds_parameter (name : String) :
    a.Corresponds beanPackage (a.parameter beanPackage name) := by
  have hrest := Schema.notNull_not_mem_constraints a.schema
  have hothers : (Schema.constraints a.schema).filter (· ≠ .notNull) =
      Schema.constraints a.schema := by
    rw [List.filter_eq_self]
    intro k hk
    simpa using fun h : k = .notNull ↦ hrest (h ▸ hk)
  have hmem : .notNull ∈ (a.parameter beanPackage name).constraints ↔
      a.needsNotNull (a.type beanPackage) = true := by
    rw [constraints_parameter]
    split <;> simp_all
  refine ⟨rfl, a.binds_binding, ?_, fun h ↦ ?_, ?_, rfl⟩
  · rw [hmem]
    exact a.needsNotNull_iff
  · rw [constraints_parameter, if_pos (hmem.mp h), List.singleton_append]
    exact ⟨rfl, by rw [List.count_cons_self, List.count_eq_zero_of_not_mem hrest]⟩
  · rw [constraints_parameter, List.filter_append, hothers]
    split <;> simp

end Argument

theorem Operation.corresponds_method {s : Settings} {beanPackage : String}
    {render : String → String} {op : Operation} {m : Method}
    (hm : op.method s beanPackage render = .ok m) :
    op.Corresponds beanPackage render m := by
  obtain ⟨v, hv, rfl⟩ := method_eq_ok_iff.mp hm
  refine ⟨rfl, rfl, rfl, Verb.ofName_eq_ok_iff.mp hv, rfl, rfl,
    op.map_name_parameters beanPackage, ?_⟩
  exact op.forall₂_parameters fun a _ name ↦ a.corresponds_parameter name

/-- Methods are the operations, and parameters the arguments, one by one and in their order. -/
theorem Resource.corresponds_interface {s : Settings} {beanPackage contextRoot : String}
    {render : String → String} {r : Resource} {i : Interface}
    (h : r.interface s beanPackage render contextRoot = .ok i) :
    List.Forall₂ (Operation.Corresponds beanPackage render) r.operations i.methods :=
  forall₂_methods (fun _ _ hm ↦ Operation.corresponds_method hm) h

/-- Two arguments with one base, a path, a body and a location of no kind. -/
def shipments : Resource where
  package := "org.acme.api"
  name := "shipments"
  path := "/shipments"
  operations :=
    let text : Schema := .value ⟨.one .string, none, none, none, none, some 8, none⟩
    [{ name := "send"
       path := some "/\x7bclass\x7d"
       verb := "Put"
       description := none
       produces := none
       consumes := some ["text/plain"]
       async := none
       arguments :=
         [⟨"class", .path, true, some text, false, []⟩,
          ⟨"ship-to", .header, true, some text, false, [⟨"org.acme.Trimmed", []⟩]⟩,
          ⟨"ship_to", .cookie, false, some text, false, []⟩,
          ⟨"count", .query, true, some (.value ⟨.one .integer, none, none, none, none, none, none⟩),
            false, []⟩,
          ⟨"note", .body, true, none, false, []⟩,
          ⟨"2fa", .unclassified "formData", true, none, false, []⟩]
       response := none }]

theorem Resource.corresponds_interface_shipments : ∃ i,
    shipments.interface {} "org.acme.beans" id "/api" = .ok i ∧
      (i.methods.flatMap fun m ↦ m.parameters.map fun p ↦ (p.name, p.binding, p.constraints)) =
        [("_class", .path "class", [.size none (some 8)]),
         ("ship_to", .header "ship-to", [.notNull, .size none (some 8)]),
         ("ship_to2", .cookie "ship_to", [.size none (some 8)]),
         ("count", .query "count", []),
         ("note", .unbound, [.notNull]),
         ("_2fa", .unbound, [.notNull])] ∧
      List.Forall₂ (Operation.Corresponds "org.acme.beans" id) shipments.operations i.methods :=
  ⟨_, rfl, by decide +kernel, corresponds_interface rfl⟩

end Jaxrs
