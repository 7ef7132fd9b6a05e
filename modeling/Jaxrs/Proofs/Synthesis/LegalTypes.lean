import Jaxrs.Proofs.Synthesis

/-!
The types of an interface are ones that Java has. A type argument has to be a reference type,
however deep it lies (`JavaType.Legal`); what goes into a list, a response or an asynchronous
wrapper is boxed on its way there, so every type of a schema and every result is legal.
`Resource.legal_types` puts this together for a whole interface, and says which parameters are
primitive and which methods return nothing.
-/

set_option autoImplicit false

namespace Jaxrs

namespace JavaType

mutual

/-- The type arguments in a type, at any depth. -/
def typeArguments : JavaType → List JavaType
  | primitive _ => []
  | void => []
  | named _ args => typeArgumentsOfList args

def typeArgumentsOfList : List JavaType → List JavaType
  | [] => []
  | t :: rest => t :: typeArguments t ++ typeArgumentsOfList rest

end

/-- No primitive and no `void` is a type argument. -/
def Legal (t : JavaType) : Prop :=
  ∀ a ∈ t.typeArguments, a.isPrimitive = false

theorem legal_plain (name : String) : (plain name).Legal := by
  simp [Legal, typeArguments, typeArgumentsOfList]

theorem legal_of_isPrimitive {t : JavaType} (h : t.isPrimitive = true) : t.Legal := by
  cases t with
  | primitive p => simp [Legal, typeArguments]
  | void => simp [Legal, typeArguments]
  | named name args => simp [isPrimitive] at h

theorem legal_named_iff {name : String} {t : JavaType} :
    (named name [t]).Legal ↔ t.isPrimitive = false ∧ t.Legal := by
  simp [Legal, typeArguments, typeArgumentsOfList]

theorem isPrimitive_boxed (t : JavaType) : t.boxed.isPrimitive = false := by
  cases t <;> rfl

theorem legal_boxed {t : JavaType} (h : t.Legal) : t.boxed.Legal := by
  cases t with
  | primitive p => exact legal_plain p.className
  | void => exact legal_plain "java.lang.Void"
  | named name args => exact h

/-- Whatever is boxed can be the only argument of a class. -/
theorem legal_named_boxed {name : String} {t : JavaType} (h : t.Legal) :
    (named name [t.boxed]).Legal :=
  legal_named_iff.mpr ⟨t.isPrimitive_boxed, legal_boxed h⟩

theorem legal_primitiveIf (required : Bool) (p : Primitive) : (primitiveIf required p).Legal := by
  have hlegal : (primitive p).Legal := legal_of_isPrimitive rfl
  cases required with
  | true => exact hlegal
  | false => exact legal_boxed hlegal

theorem isPrimitive_primitiveIf (required : Bool) (p : Primitive) :
    (primitiveIf required p).isPrimitive = required := by
  cases required <;> rfl

end JavaType

/-! ### Schemas -/

namespace DataType

variable {t : DataType} {format : Option String} {required : Bool}

/-- There is a primitive for the values: integers, truth values or floating-point numbers. -/
def HasPrimitive (t : DataType) (format : Option String) : Prop :=
  t = .integer ∨ t = .boolean ∨ t = .number ∧ (format = some "float" ∨ format = some "double")

theorem legal_of_javaType? {type : JavaType} (h : t.javaType? format required = some type) :
    type.Legal := by
  rcases javaType?_cases h with ⟨p, rfl⟩ | ⟨name, _, rfl⟩
  · exact JavaType.legal_primitiveIf required p
  · exact JavaType.legal_plain name

theorem isPrimitive_getD_javaType?_iff {fallback : JavaType}
    (hfallback : fallback.isPrimitive = false) :
    ((t.javaType? format required).getD fallback).isPrimitive = true ↔
      required = true ∧ t.HasPrimitive format := by
  have hplain (name : String) : (JavaType.plain name).isPrimitive = false := rfl
  unfold javaType?
  split
  · split <;> simp [HasPrimitive, JavaType.isPrimitive_primitiveIf]
  · split <;> simp_all [HasPrimitive, JavaType.isPrimitive_primitiveIf]
  · simp [HasPrimitive, JavaType.isPrimitive_primitiveIf]
  · split <;> simp [HasPrimitive, JavaType.inputStream, hplain]
  · simp [HasPrimitive, hfallback]
  · simp [HasPrimitive, hfallback]
  · simp [HasPrimitive, hfallback]

end DataType

namespace Schema

variable {beanPackage : String} {required : Bool} {fallback : JavaType}

/-- The induction is on the nesting of array items. -/
theorem legal_of_javaType? {schema : Schema} {required : Bool} {type : JavaType}
    (h : javaType? beanPackage schema required = some type) : type.Legal := by
  induction schema, required using javaType?.induct generalizing type with
  | case1 location required =>
    rw [javaType?] at h
    obtain ⟨name, _, rfl⟩ := Option.map_eq_some_iff.mp h
    exact JavaType.legal_plain name
  | case2 v required =>
    rw [javaType?] at h
    obtain ⟨t, _, ht⟩ := Option.bind_eq_some_iff.mp h
    exact DataType.legal_of_javaType? ht
  | case3 items minItems maxItems required ih =>
    rw [javaType?] at h
    obtain rfl := Option.some.inj h
    refine JavaType.legal_named_boxed ?_
    cases hitems : javaType? beanPackage items false with
    | none => exact JavaType.legal_plain "java.lang.Object"
    | some item => exact ih hitems
  | case4 | case5 | case6 | case7 => simp [javaType?] at h

theorem legal_resolveType {schema : Option Schema} (hfallback : fallback.Legal) :
    (resolveType beanPackage schema required fallback).Legal := by
  rw [resolveType]
  cases htype : schema.bind (javaType? beanPackage · required) with
  | none => exact hfallback
  | some type =>
    obtain ⟨other, _, hother⟩ := Option.bind_eq_some_iff.mp htype
    exact legal_of_javaType? hother

/-- The schema is that of a single value for which there is a primitive. -/
def HasPrimitive (schema : Schema) : Prop :=
  ∃ v t, schema = value v ∧ v.type.primary? = some t ∧ t.HasPrimitive v.format

theorem isPrimitive_getD_javaType?_iff (beanPackage : String) (schema : Schema) (required : Bool)
    (hfallback : fallback.isPrimitive = false) :
    ((javaType? beanPackage schema required).getD fallback).isPrimitive = true ↔
      required = true ∧ schema.HasPrimitive := by
  have hother {other : Schema} (hvalue : ∀ v, other ≠ value v)
      (h : ((javaType? beanPackage other required).getD fallback).isPrimitive = false) :
      ((javaType? beanPackage other required).getD fallback).isPrimitive = true ↔
        required = true ∧ other.HasPrimitive := by
    refine iff_of_false (by simp [h]) ?_
    rintro ⟨_, v, _, hv, _⟩
    exact hvalue v hv
  cases schema with
  | reference location =>
    refine hother (by simp) ?_
    rw [javaType?]
    cases beanName? beanPackage location with
    | none => exact hfallback
    | some name => rfl
  | value v =>
    rw [javaType?]
    cases htype : v.type.primary? with
    | none => simp [HasPrimitive, htype, hfallback]
    | some t =>
      have hdata : ((t.javaType? v.format required).getD fallback).isPrimitive = true ↔
          required = true ∧ t.HasPrimitive v.format :=
        DataType.isPrimitive_getD_javaType?_iff hfallback
      simpa [HasPrimitive, htype] using hdata
  | array items minItems maxItems =>
    refine hother (by simp) ?_
    cases items with
    | none =>
      rw [javaType?]
      exact hfallback
    | some items =>
      rw [javaType?]
      rfl
  | oneOf schemas => exact hother (by simp) (by rw [javaType?]; exact hfallback)
  | allOf schemas => exact hother (by simp) (by rw [javaType?]; exact hfallback)
  | anyOf schemas => exact hother (by simp) (by rw [javaType?]; exact hfallback)

/-- Only the schema of a single value has a primitive type, and only if it is required. -/
theorem isPrimitive_resolveType_iff {schema : Option Schema}
    (hfallback : fallback.isPrimitive = false) :
    (resolveType beanPackage schema required fallback).isPrimitive = true ↔
      required = true ∧ ∃ other ∈ schema, other.HasPrimitive := by
  cases schema with
  | none => simp [resolveType, hfallback]
  | some schema =>
    have hiff := isPrimitive_getD_javaType?_iff beanPackage schema required hfallback
    simpa [resolveType] using hiff

end Schema

/-! ### Results -/

namespace Settings

variable {s : Settings} {async : Bool} {result : JavaType}

theorem legal_envelope (h : result.Legal) : (s.envelope result).Legal := by
  rw [envelope]
  split
  · split
    · exact JavaType.legal_plain _
    · exact JavaType.legal_named_boxed h
  · exact h

theorem legal_wrapResult (h : result.Legal) : (s.wrapResult async result).Legal := by
  rw [wrapResult]
  split
  · exact JavaType.legal_named_boxed (legal_envelope h)
  · exact legal_envelope h

/-- Nothing is returned only if nothing is there to return and nothing is put around it. -/
theorem isVoid_wrapResult_iff : (s.wrapResult async result).isVoid = true ↔
    result.isVoid = true ∧ async = false ∧ s.returnResponse = false := by
  rw [wrapResult]
  cases async with
  | true => simp [JavaType.isVoid]
  | false =>
    rw [if_neg Bool.false_ne_true, envelope]
    cases s.returnResponse with
    | true => cases hvoid : result.isVoid <;> simp [JavaType.isVoid, responseType]
    | false => simp

end Settings

/-! ### Interfaces -/

namespace Argument

variable {beanPackage : String} (a : Argument)

theorem isPrimitive_fallbackType : a.fallbackType.isPrimitive = false := by
  rw [fallbackType]
  split <;> rfl

theorem legal_type : (a.type beanPackage).Legal := by
  refine Schema.legal_resolveType ?_
  rw [fallbackType]
  split
  · exact JavaType.legal_plain "java.io.InputStream"
  · exact JavaType.legal_plain "java.lang.Object"

theorem isPrimitive_type_iff : (a.type beanPackage).isPrimitive = true ↔
    a.required = true ∧ ∃ schema ∈ a.schema, schema.HasPrimitive :=
  Schema.isPrimitive_resolveType_iff a.isPrimitive_fallbackType

end Argument

namespace Operation

variable {s : Settings} {beanPackage : String} {op : Operation}

theorem legal_returnType : (op.returnType s beanPackage).Legal := by
  refine Settings.legal_wrapResult ?_
  rw [resultType]
  split
  · exact Schema.legal_resolveType (JavaType.legal_plain _)
  · exact JavaType.legal_of_isPrimitive rfl

theorem isVoid_returnType_iff : (op.returnType s beanPackage).isVoid = true ↔
    op.response = none ∧ isAsync s.reactive op.async = false ∧ s.returnResponse = false := by
  have hresult : (op.resultType s beanPackage).isVoid = true ↔ op.response = none := by
    rw [resultType]
    split
    · rename_i r hresponse
      have hvoid : (Schema.resolveType beanPackage r.schema true s.responseType).isVoid = false :=
        Schema.isVoid_resolveType rfl
      simp [hresponse, hvoid]
    · rename_i hresponse
      simp [hresponse, JavaType.isVoid]
  rw [returnType, Settings.isVoid_wrapResult_iff, hresult]

end Operation

variable {s : Settings} {beanPackage contextRoot : String} {render : String → String} {r : Resource}
  {i : Interface}

/-- What a type may be that stands for an argument. -/
structure Argument.HasLegalType (a : Argument) (p : Parameter) : Prop where
  legal : p.type.Legal
  not_void : p.type.isVoid = false
  primitive_iff : p.type.isPrimitive = true ↔
    a.required = true ∧ ∃ schema ∈ a.schema, schema.HasPrimitive

/-- What the types of a method may be that stands for an operation. -/
structure Operation.HasLegalTypes (s : Settings) (op : Operation) (m : Method) : Prop where
  legal : m.returnType.Legal
  void_iff : m.returnType.isVoid = true ↔
    op.response = none ∧ isAsync s.reactive op.async = false ∧ s.returnResponse = false
  parameters : List.Forall₂ Argument.HasLegalType op.arguments m.parameters

/-- No type of an interface has a primitive or `void` among its arguments. -/
theorem Resource.legal_types (h : r.interface s beanPackage render contextRoot = .ok i) :
    List.Forall₂ (Operation.HasLegalTypes s) r.operations i.methods := by
  refine forall₂_methods (fun op m hm ↦ ?_) h
  obtain ⟨v, _, rfl⟩ := Operation.method_eq_ok_iff.mp hm
  refine ⟨op.legal_returnType, op.isVoid_returnType_iff, op.forall₂_parameters fun a _ name ↦ ?_⟩
  exact ⟨a.legal_type, a.isVoid_type, a.isPrimitive_type_iff⟩

/-- Every value is a count or null: one that has to be there, one that may be missing, and rows of
rows of them. -/
def tallies : Resource where
  package := "org.acme.api"
  name := "tallies"
  path := "/tallies"
  operations :=
    let count : Schema := .value ⟨.among [.null, .integer], none, none, none, none, none, none⟩
    [{ name := "add"
       path := none
       verb := "post"
       description := none
       produces := none
       consumes := none
       async := none
       arguments :=
         [⟨"first", .query, true, some count, false, []⟩,
          ⟨"last", .query, false, some count, false, []⟩,
          ⟨"rows", .body, true, some (.array (some (.array (some count) none none)) none none),
            false, []⟩]
       response := some ⟨some count⟩ }]

theorem Resource.legal_types_tallies : ∃ i,
    tallies.interface { reactive := true, returnResponse := true } "org.acme.beans" id "/api" =
        .ok i ∧
      (i.methods.map fun m ↦ m.returnType.text) =
        ["java.util.concurrent.CompletionStage<" ++
          "org.jboss.resteasy.reactive.RestResponse<java.lang.Integer>>"] ∧
      (i.methods.flatMap fun m ↦ m.parameters.map (·.type.text)) =
        ["int", "java.lang.Integer", "java.util.List<java.util.List<java.lang.Integer>>"] ∧
      List.Forall₂ (Operation.HasLegalTypes { reactive := true, returnResponse := true })
        tallies.operations i.methods :=
  ⟨_, rfl, by decide +kernel, by decide +kernel, legal_types rfl⟩

end Jaxrs
