import Jaxrs.Proofs.TypeMapping
import Jaxrs.Synthesis

/-!
How the type of a schema depends on what is said around the schema. That a value may be missing
boxes its type and does nothing else (`Schema.resolveType_optional`), and the type that stands in
for a schema without one of its own never reaches the items of a list: a list of lists of any depth
has the type of its innermost items, as optional values that are an object if nothing else is known
of them (`Schema.resolveType_of_nests`).
-/

set_option autoImplicit false

namespace Jaxrs

namespace JavaType

@[simp] theorem boxed_boxed (t : JavaType) : t.boxed.boxed = t.boxed := by
  cases t <;> rfl

/-- An optional value is boxed before any box is asked for. -/
theorem boxed_primitiveIf (required : Bool) (p : Primitive) :
    (primitiveIf required p).boxed = primitiveIf false p := by
  cases required with
  | true => rfl
  | false => exact boxed_boxed (primitive p)

/-- Lists of lists of the element, that many deep. -/
def listOf (element : JavaType) : Nat → JavaType
  | 0 => element
  | depth + 1 => named "java.util.List" [listOf element depth]

end JavaType

theorem DataType.map_boxed_javaType? (t : DataType) (format : Option String) (required : Bool) :
    (t.javaType? format required).map JavaType.boxed = t.javaType? format false := by
  have hprimitive (p : Primitive) := JavaType.boxed_primitiveIf required p
  unfold javaType?
  split
  · split <;> rw [Option.map_some, hprimitive]
  · split
    · rw [Option.map_some, hprimitive]
    · rw [Option.map_some, hprimitive]
    · rfl
  · rw [Option.map_some, hprimitive]
  · split <;> rfl
  · rfl
  · rfl
  · rfl

namespace Schema

/-- The schema is an array of arrays of the element, that many deep. -/
inductive Nests (element : Schema) : Nat → Schema → Prop
  | element : Nests element 0 element
  | array {depth : Nat} {items : Schema} {minItems maxItems : Option Nat}
    (h : Nests element depth items) :
    Nests element (depth + 1) (array (some items) minItems maxItems)

variable {beanPackage : String}

/-- Only the type of a single value asks whether it is required: a bean has no primitive and the
items of an array are always optional. -/
theorem map_boxed_javaType? (schema : Schema) (required : Bool) :
    (javaType? beanPackage schema required).map JavaType.boxed =
      javaType? beanPackage schema false := by
  cases schema with
  | reference location =>
    rw [javaType?, javaType?, Option.map_map]
    rfl
  | value v =>
    rw [javaType?, javaType?]
    cases v.type.primary? with
    | none => rfl
    | some t => exact t.map_boxed_javaType? v.format required
  | array items minItems maxItems => cases items <;> simp [javaType?, JavaType.boxed]
  | oneOf schemas => simp [javaType?]
  | allOf schemas => simp [javaType?]
  | anyOf schemas => simp [javaType?]

theorem boxed_resolveType (schema : Option Schema) (required : Bool) (fallback : JavaType) :
    (resolveType beanPackage schema required fallback).boxed =
      resolveType beanPackage schema false fallback.boxed := by
  rw [resolveType, resolveType, ← Option.getD_map JavaType.boxed]
  congr 1
  cases schema with
  | none => rfl
  | some schema => exact map_boxed_javaType? schema required

/-- The items of a list are looked up alike wherever the list is. -/
theorem resolveType_array (items : Schema) (minItems maxItems : Option Nat) (required : Bool)
    (fallback : JavaType) :
    resolveType beanPackage (some (array (some items) minItems maxItems)) required fallback =
      .named "java.util.List" [(resolveType beanPackage (some items) false .object).boxed] := by
  rw [resolveType, resolveType, Option.bind_some, Option.bind_some, javaType?, Option.getD_some]

/-- The induction is on the depth. A list is a class, so nothing changes when it is boxed to be an
item of the list around it. -/
theorem boxed_resolveType_of_nests {element schema : Schema} {depth : Nat}
    (h : Nests element depth schema) :
    (resolveType beanPackage (some schema) false .object).boxed =
      JavaType.listOf (resolveType beanPackage (some element) false .object).boxed depth := by
  induction h with
  | element => rfl
  | array h ih =>
    rw [resolveType_array, ih]
    rfl

theorem resolveType_of_nests {element schema : Schema} {depth : Nat}
    (h : Nests element (depth + 1) schema) (required : Bool) (fallback : JavaType) :
    resolveType beanPackage (some schema) required fallback =
      JavaType.listOf (resolveType beanPackage (some element) false .object).boxed (depth + 1) := by
  cases h with
  | array hitems =>
    rw [resolveType_array, boxed_resolveType_of_nests hitems]
    rfl

/-- Being optional boxes a type, and what a list holds depends on its items alone. -/
theorem resolveType_optional {fallback : JavaType} (hfallback : fallback.boxed = fallback)
    (beanPackage : String) (schema : Option Schema) :
    resolveType beanPackage schema false fallback =
        (resolveType beanPackage schema true fallback).boxed ∧
      ∀ whole ∈ schema, ∀ (element : Schema) (depth : Nat), Nests element (depth + 1) whole →
        ∀ (required : Bool) (other : JavaType),
          resolveType beanPackage schema required other =
            JavaType.listOf (resolveType beanPackage (some element) false .object).boxed
              (depth + 1) := by
  constructor
  · rw [boxed_resolveType, hfallback]
  · intro whole hwhole element depth hnests required other
    obtain rfl : schema = some whole := hwhole
    exact resolveType_of_nests hnests required other

/-- A number of things, or null. -/
def nullableCount : Schema :=
  .value ⟨.among [.null, .integer], none, none, none, none, none, none⟩

def countRows : Schema :=
  .array (some (.array (some nullableCount) none none)) (some 1) none

theorem resolveType_optional_countRows :
    JavaType.inputStream.boxed = .inputStream ∧
      resolveType "org.acme.beans" (some nullableCount) true .inputStream = .primitive .int ∧
      resolveType "org.acme.beans" (some nullableCount) false .inputStream =
        .plain "java.lang.Integer" ∧
      Nests nullableCount 2 countRows ∧
      resolveType "org.acme.beans" (some countRows) true .inputStream =
        .named "java.util.List" [.named "java.util.List" [.plain "java.lang.Integer"]] := by
  have hfallback : JavaType.inputStream.boxed = .inputStream := rfl
  have hoptional := (resolveType_optional hfallback "org.acme.beans" (some nullableCount)).1
  have hnests : Nests nullableCount 2 countRows := .array (.array .element)
  have hrows := (resolveType_optional hfallback "org.acme.beans" (some countRows)).2
    countRows rfl nullableCount 1 hnests true .inputStream
  exact ⟨hfallback, rfl, hoptional, hnests, hrows⟩

end Schema

/-- An argument that may be left out has the type of one that may not, boxed. -/
theorem Argument.type_optional (beanPackage : String) (a : Argument) :
    ({ a with required := false } : Argument).type beanPackage =
      (({ a with required := true } : Argument).type beanPackage).boxed := by
  have hfallback : a.fallbackType.boxed = a.fallbackType := by
    rw [fallbackType]
    split <;> rfl
  change Schema.resolveType beanPackage a.schema false a.fallbackType =
    (Schema.resolveType beanPackage a.schema true a.fallbackType).boxed
  rw [Schema.boxed_resolveType, hfallback]

end Jaxrs
