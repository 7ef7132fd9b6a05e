import Jaxrs.Synthesis
import Mathlib.Logic.Relation

/-!
Type lists that say the same in another spelling. A null in a list says that a value may be missing,
and that is no type; a list of one type is that type. What is read off a list is its first type that
is a type of values (`TypeChoice.usable?`), and every spelling has the same one, so that neither the
type of a schema nor its constraints depend on the spelling, be it that of the schema or of the
items of its items (`Schema.resolveType_and_constraints_eq`). A lone null is the one choice that
`TypeChoice.primary?` does not read alike in its two spellings, and no type is made of either.
-/

set_option autoImplicit false

namespace Jaxrs

/-- One change of a spelling: a null is put into a list, or a single type becomes a list. -/
inductive TypeChoice.Respelled : TypeChoice → TypeChoice → Prop
  | null (before after : List DataType) :
    Respelled (.among (before ++ after)) (.among (before ++ .null :: after))
  | list (t : DataType) : Respelled (.one t) (.among [t])

/-- The types of one value are respelled, of the schema itself or of its items, at any depth. -/
inductive Schema.Respelled : Schema → Schema → Prop
  | value {v : ValueSchema} {type : TypeChoice} (h : v.type.Respelled type) :
    Respelled (.value v) (.value { v with type })
  | array {items items' : Schema} {minItems maxItems : Option Nat} (h : Respelled items items') :
    Respelled (.array (some items) minItems maxItems) (.array (some items') minItems maxItems)

namespace TypeChoice

/-- The first type that is not null, where `primary?` lets a single null pass. -/
def usable? (c : TypeChoice) : Option DataType :=
  c.primary?.filter (· != .null)

theorem Respelled.usable?_eq {c d : TypeChoice} (h : c.Respelled d) : d.usable? = c.usable? := by
  cases h with
  | null before after => simp [usable?, primary?, List.find?_append]
  | list t => cases t <;> rfl

/-- Nothing is made of a null, so a lone one may as well be left out. -/
theorem bind_primary?_eq (c : TypeChoice) (format : Option String) (required : Bool) :
    (c.primary?.bind fun t ↦ t.javaType? format required) =
      c.usable?.bind fun t ↦ t.javaType? format required := by
  rw [usable?]
  cases c.primary? with
  | none => rfl
  | some t => cases t <;> rfl

theorem primary?_eq_integer_iff {c : TypeChoice} :
    c.primary? = some .integer ↔ c.usable? = some .integer := by
  rw [usable?]
  cases c.primary? with
  | none => rfl
  | some t => cases t <;> decide

end TypeChoice

namespace Schema

/-- The schemas have the same type wherever they stand, and the same constraints. -/
structure Alike (schema schema' : Schema) : Prop where
  javaType? (beanPackage : String) (required : Bool) :
    javaType? beanPackage schema' required = javaType? beanPackage schema required
  constraints : constraints (some schema') = constraints (some schema)

theorem equivalence_alike : Equivalence Alike where
  refl _ := ⟨fun _ _ ↦ rfl, rfl⟩
  symm h := ⟨fun beanPackage required ↦ (h.javaType? beanPackage required).symm, h.constraints.symm⟩
  trans h h' := ⟨fun beanPackage required ↦
    (h'.javaType? beanPackage required).trans (h.javaType? beanPackage required),
    h'.constraints.trans h.constraints⟩

theorem alike_value {v : ValueSchema} {type : TypeChoice} (h : type.usable? = v.type.usable?) :
    Alike (.value v) (.value { v with type }) where
  javaType? beanPackage required := by
    calc type.primary?.bind (fun t ↦ t.javaType? v.format required)
      _ = type.usable?.bind (fun t ↦ t.javaType? v.format required) := type.bind_primary?_eq _ _
      _ = v.type.usable?.bind (fun t ↦ t.javaType? v.format required) := by rw [h]
      _ = v.type.primary?.bind (fun t ↦ t.javaType? v.format required) :=
        (v.type.bind_primary?_eq _ _).symm
  constraints := by
    have hintegral : ({ v with type } : ValueSchema).isIntegral = v.isIntegral := by
      rw [ValueSchema.isIntegral, ValueSchema.isIntegral, Bool.eq_iff_iff, beq_iff_eq, beq_iff_eq,
        TypeChoice.primary?_eq_integer_iff, TypeChoice.primary?_eq_integer_iff, h]
    rw [Schema.constraints, Schema.constraints, ValueSchema.constraints, ValueSchema.constraints,
      hintegral]

/-- The constraints of an array say nothing of its items. -/
theorem Alike.array {items items' : Schema} (h : Alike items items')
    (minItems maxItems : Option Nat) :
    Alike (.array (some items) minItems maxItems) (.array (some items') minItems maxItems) where
  javaType? beanPackage required := by
    rw [Schema.javaType?, Schema.javaType?, h.javaType?]
  constraints := rfl

/-- The induction goes down through the arrays to the value whose types are respelled. -/
theorem Respelled.alike {schema schema' : Schema} (h : Respelled schema schema') :
    Alike schema schema' := by
  induction h with
  | value h => exact alike_value h.usable?_eq
  | array _ ih => exact ih.array _ _

theorem alike_of_eqvGen {schema schema' : Schema} (h : Relation.EqvGen Respelled schema schema') :
    Alike schema schema' :=
  equivalence_alike.eqvGen_iff.mp (h.mono fun _ _ ↦ Respelled.alike)

theorem Alike.resolveType {schema schema' : Schema} (h : Alike schema schema')
    (beanPackage : String) (required : Bool) (fallback : JavaType) :
    resolveType beanPackage (some schema') required fallback =
      resolveType beanPackage (some schema) required fallback := by
  rw [Schema.resolveType, Schema.resolveType, Option.bind_some, Option.bind_some, h.javaType?]

/-- Schemas that come from each other by changes of spelling, there and back and as many as one
likes, have the same types and the same constraints. -/
theorem resolveType_and_constraints_eq {schema schema' : Schema}
    (h : Relation.EqvGen Respelled schema schema') :
    (∀ (beanPackage : String) (required : Bool) (fallback : JavaType),
        resolveType beanPackage (some schema') required fallback =
          resolveType beanPackage (some schema) required fallback) ∧
      constraints (some schema') = constraints (some schema) :=
  ⟨(alike_of_eqvGen h).resolveType, (alike_of_eqvGen h).constraints⟩

/-- A count from zero on. -/
def count (types : TypeChoice) : Schema :=
  .value ⟨types, some "int64", some (.integer 0), none, none, none, none⟩

/-- One list of counts or more. -/
def countLists (types : TypeChoice) : Schema :=
  .array (some (.array (some (count types)) none none)) (some 1) none

theorem resolveType_and_constraints_eq_counts :
    Relation.EqvGen Respelled (count (.among [.null, .integer, .null])) (count (.one .integer)) ∧
      constraints (some (count (.among [.null, .integer, .null]))) = [.min 0] ∧
      Relation.EqvGen Respelled (countLists (.one .null)) (countLists (.among [])) ∧
      resolveType "org.acme.beans" (some (countLists (.one .null))) true .inputStream =
        .named "java.util.List" [.named "java.util.List" [.object]] := by
  have hcount : Relation.EqvGen Respelled (count (.among [.null, .integer, .null]))
      (count (.one .integer)) := by
    have hfirst :
        Respelled (count (.among [.integer, .null])) (count (.among [.null, .integer, .null])) :=
      .value (.null [] [.integer, .null])
    have hlast : Respelled (count (.among [.integer])) (count (.among [.integer, .null])) :=
      .value (.null [.integer] [])
    have hlist : Respelled (count (.one .integer)) (count (.among [.integer])) :=
      .value (.list .integer)
    exact (((Relation.EqvGen.rel _ _ hlist).trans _ _ _ (.rel _ _ hlast)).trans _ _ _
      (.rel _ _ hfirst)).symm
  have hlists : Relation.EqvGen Respelled (countLists (.one .null)) (countLists (.among [])) := by
    have hlist : Respelled (countLists (.one .null)) (countLists (.among [.null])) :=
      .array (.array (.value (.list .null)))
    have hnull : Respelled (countLists (.among [])) (countLists (.among [.null])) :=
      .array (.array (.value (.null [] [])))
    exact (Relation.EqvGen.rel _ _ hlist).trans _ _ _ (.symm _ _ (.rel _ _ hnull))
  refine ⟨hcount, ?_, hlists, ?_⟩
  · rw [← (resolveType_and_constraints_eq hcount).2]
    decide
  · exact ((resolveType_and_constraints_eq hlists).1 "org.acme.beans" true .inputStream).symm

end Schema

/-- A respelled schema leaves the parameter as it is. -/
theorem Argument.parameter_respelled {schema schema' : Schema}
    (h : Relation.EqvGen Schema.Respelled schema schema') (beanPackage name : String)
    (a : Argument) :
    ({ a with schema := some schema' } : Argument).parameter beanPackage name =
      ({ a with schema := some schema } : Argument).parameter beanPackage name := by
  have halike := Schema.alike_of_eqvGen h
  have htype : ({ a with schema := some schema' } : Argument).type beanPackage =
      ({ a with schema := some schema } : Argument).type beanPackage :=
    halike.resolveType beanPackage a.required a.fallbackType
  rw [parameter, parameter, htype, halike.constraints]
  rfl

end Jaxrs
