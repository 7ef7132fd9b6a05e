import Jaxrs.TypeMapping
import Jaxrs.Proofs.ClassName

/-!
The classes that the type of a schema names. All of them come from a library, except for the bean of
a reference, so that the only way to a type without a proper name is a reference to a bean whose
package has none (`qualified_resolveType_iff`). No schema has the type `void`.
-/

set_option autoImplicit false

namespace Jaxrs

/-- Every class in the type has a name that Java accepts. -/
def JavaType.Qualified (t : JavaType) : Prop :=
  ∀ c ∈ t.classNames, isQualifiedName c = true

namespace JavaType

theorem qualified_plain_iff {name : String} :
    (plain name).Qualified ↔ isQualifiedName name = true := by
  simp [Qualified, classNames, classNamesOfList]

theorem qualified_named_iff {name : String} {t : JavaType} :
    (named name [t]).Qualified ↔ isQualifiedName name = true ∧ t.Qualified := by
  simp [Qualified, classNames, classNamesOfList]

theorem qualified_primitive (p : Primitive) : (primitive p).Qualified := by
  simp [Qualified, classNames]

theorem qualified_void : void.Qualified := by
  simp [Qualified, classNames]

/-- The classes that types are built from, beside those of values and beans. -/
def libraryClasses : List String :=
  ["java.lang.Object", "java.lang.Void", "java.lang.Boolean", "java.lang.Integer", "java.lang.Long",
   "java.lang.Float", "java.lang.Double", "java.io.InputStream", "java.util.List",
   "java.util.concurrent.CompletionStage", "io.smallrye.mutiny.Uni",
   "org.jboss.resteasy.reactive.RestResponse", "jakarta.ws.rs.core.Response",
   "javax.ws.rs.core.Response"]

theorem isQualifiedName_of_mem_libraryClasses :
    ∀ name ∈ libraryClasses, isQualifiedName name = true := by
  decide +kernel

theorem qualified_object : object.Qualified :=
  qualified_plain_iff.mpr (isQualifiedName_of_mem_libraryClasses _ (by simp [libraryClasses]))

theorem qualified_inputStream : inputStream.Qualified :=
  qualified_plain_iff.mpr (isQualifiedName_of_mem_libraryClasses _ (by simp [libraryClasses]))

theorem className_mem_libraryClasses (p : Primitive) : p.className ∈ libraryClasses := by
  cases p <;> simp [Primitive.className, libraryClasses]

/-- Boxing puts a class of `java.lang` in the place of a primitive and of `void`. -/
theorem qualified_boxed_iff {t : JavaType} : t.boxed.Qualified ↔ t.Qualified := by
  cases t with
  | primitive p =>
    have hclass := isQualifiedName_of_mem_libraryClasses _ (className_mem_libraryClasses p)
    exact iff_of_true (qualified_plain_iff.mpr hclass) (qualified_primitive p)
  | void =>
    have hclass : isQualifiedName "java.lang.Void" = true :=
      isQualifiedName_of_mem_libraryClasses _ (by simp [libraryClasses])
    exact iff_of_true (qualified_plain_iff.mpr hclass) qualified_void
  | named name args => rfl

theorem qualified_primitiveIf (required : Bool) (p : Primitive) :
    (primitiveIf required p).Qualified := by
  cases required with
  | true => exact qualified_primitive p
  | false => exact qualified_boxed_iff.mpr (qualified_primitive p)

end JavaType

namespace DataType

variable {t : DataType} {format : Option String} {required : Bool} {type : JavaType}

/-- The classes of the values that are no primitives. -/
def valueClasses : List String :=
  ["java.lang.String", "java.math.BigDecimal", "java.time.LocalDate", "java.time.OffsetDateTime",
   "java.util.UUID", "java.io.InputStream"]

theorem javaType?_cases (h : t.javaType? format required = some type) :
    (∃ p, type = .primitiveIf required p) ∨ ∃ name ∈ valueClasses, type = .plain name := by
  unfold javaType? at h
  split at h
  · split at h <;> cases h <;> exact Or.inl ⟨_, rfl⟩
  · split at h <;> cases h
    · exact Or.inl ⟨_, rfl⟩
    · exact Or.inl ⟨_, rfl⟩
    · exact Or.inr ⟨_, by simp [valueClasses], rfl⟩
  · cases h
    exact Or.inl ⟨_, rfl⟩
  · split at h <;> cases h <;> exact Or.inr ⟨_, by simp [valueClasses], rfl⟩
  · cases h
  · cases h
  · cases h

theorem qualified_of_javaType? (h : t.javaType? format required = some type) :
    type.Qualified := by
  have hclasses : ∀ name ∈ valueClasses, isQualifiedName name = true := by decide +kernel
  rcases javaType?_cases h with ⟨p, rfl⟩ | ⟨name, hname, rfl⟩
  · exact JavaType.qualified_primitiveIf required p
  · exact JavaType.qualified_plain_iff.mpr (hclasses name hname)

theorem isVoid_of_javaType? (h : t.javaType? format required = some type) :
    type.isVoid = false := by
  rcases javaType?_cases h with ⟨p, rfl⟩ | ⟨name, _, rfl⟩
  · cases required <;> rfl
  · rfl

end DataType

namespace Schema

/-- A reference to the location, possibly below the items of arrays. -/
inductive RefersTo (location : String) : Schema → Prop
  | reference : RefersTo location (reference location)
  | items {items : Schema} {minItems maxItems : Option Nat} (h : RefersTo location items) :
    RefersTo location (array (some items) minItems maxItems)

/-- The schema refers to a location whose last segment has a letter or a digit. -/
def NamesBean (schema : Schema) : Prop :=
  ∃ location, schema.RefersTo location ∧
    ∃ c ∈ (Text.splitLast '/' location).2.toList, c.isAlphanum = true

theorem namesBean_reference_iff {location : String} :
    (reference location).NamesBean ↔ ClassName.ofName (Text.splitLast '/' location).2 ≠ "" := by
  rw [Ne, ClassName.ofName_eq_empty_iff]
  push Not
  constructor
  · rintro ⟨_, hrefers, c, hc, halnum⟩
    cases hrefers
    exact ⟨c, hc, by simp [halnum]⟩
  · rintro ⟨c, hc, halnum⟩
    exact ⟨location, .reference, c, hc, by simpa using halnum⟩

theorem namesBean_array_iff {items : Schema} {minItems maxItems : Option Nat} :
    (array (some items) minItems maxItems).NamesBean ↔ items.NamesBean := by
  constructor
  · rintro ⟨location, hrefers, hlocation⟩
    cases hrefers with
    | items h => exact ⟨location, h, hlocation⟩
  · rintro ⟨location, hrefers, hlocation⟩
    exact ⟨location, .items hrefers, hlocation⟩

theorem beanName?_of_ofName_eq_empty {beanPackage location : String}
    (h : ClassName.ofName (Text.splitLast '/' location).2 = "") :
    beanName? beanPackage location = none := by
  unfold beanName?
  split
  · rfl
  · rename_i hne
    exact absurd h hne

theorem beanName?_of_ofName_ne_empty {beanPackage location : String}
    (h : ClassName.ofName (Text.splitLast '/' location).2 ≠ "") :
    beanName? beanPackage location =
      some (beanPackage ++ "." ++ ClassName.ofName (Text.splitLast '/' location).2) := by
  unfold beanName?
  split
  · rename_i heq
    exact absurd heq h
  · rfl

/-- The class of a bean is an identifier, so the name of the bean is as good as its package. -/
theorem qualified_bean_iff {beanPackage location : String} {fallback : JavaType}
    (hfallback : fallback.Qualified) :
    (((beanName? beanPackage location).map JavaType.plain).getD fallback).Qualified ↔
      ((reference location).NamesBean → isQualifiedName beanPackage = true) := by
  rw [namesBean_reference_iff]
  by_cases hclass : ClassName.ofName (Text.splitLast '/' location).2 = ""
  · rw [beanName?_of_ofName_eq_empty hclass]
    simpa [hclass] using hfallback
  · have hidentifier := isQualifiedName_of_isIdentifier (ClassName.isIdentifier_ofName hclass)
    rw [beanName?_of_ofName_ne_empty hclass, Option.map_some, Option.getD_some,
      JavaType.qualified_plain_iff, isQualifiedName_append, hidentifier, Bool.and_true]
    simp [hclass]

/-- Whatever the fallback, a schema's type has proper names unless it names a bean whose package has
none. The induction is on the nesting of array items. -/
theorem qualified_getD_javaType?_iff (beanPackage : String) (schema : Schema) (required : Bool)
    {fallback : JavaType} (hfallback : fallback.Qualified) :
    ((javaType? beanPackage schema required).getD fallback).Qualified ↔
      (schema.NamesBean → isQualifiedName beanPackage = true) := by
  have hnone {other : Schema} (htype : javaType? beanPackage other required = none)
      (hbean : ¬ other.NamesBean) :
      ((javaType? beanPackage other required).getD fallback).Qualified ↔
        (other.NamesBean → isQualifiedName beanPackage = true) := by
    rw [htype]
    exact iff_of_true hfallback fun h ↦ absurd h hbean
  match schema with
  | reference location =>
    rw [javaType?]
    exact qualified_bean_iff hfallback
  | value v =>
    have hbean : ¬ (value v).NamesBean := fun ⟨_, hrefers, _⟩ ↦ nomatch hrefers
    refine iff_of_true ?_ fun h ↦ absurd h hbean
    cases htype : javaType? beanPackage (value v) required with
    | none => exact hfallback
    | some type =>
      rw [javaType?] at htype
      obtain ⟨t, _, ht⟩ := Option.bind_eq_some_iff.mp htype
      exact DataType.qualified_of_javaType? ht
  | array (some items) minItems maxItems =>
    have hlist : isQualifiedName "java.util.List" = true :=
      JavaType.isQualifiedName_of_mem_libraryClasses _ (by simp [JavaType.libraryClasses])
    have hitems := qualified_getD_javaType?_iff beanPackage items false
      JavaType.qualified_object
    rw [javaType?, Option.getD_some, JavaType.qualified_named_iff, JavaType.qualified_boxed_iff,
      hitems, namesBean_array_iff]
    exact and_iff_right hlist
  | array none minItems maxItems =>
    exact hnone (by rw [javaType?]) fun ⟨_, hrefers, _⟩ ↦ nomatch hrefers
  | oneOf schemas => exact hnone (by rw [javaType?]) fun ⟨_, hrefers, _⟩ ↦ nomatch hrefers
  | allOf schemas => exact hnone (by rw [javaType?]) fun ⟨_, hrefers, _⟩ ↦ nomatch hrefers
  | anyOf schemas => exact hnone (by rw [javaType?]) fun ⟨_, hrefers, _⟩ ↦ nomatch hrefers

theorem qualified_resolveType_iff {beanPackage : String} {schema : Option Schema} {required : Bool}
    {fallback : JavaType} (hfallback : fallback.Qualified) :
    (resolveType beanPackage schema required fallback).Qualified ↔
      ∀ other ∈ schema, other.NamesBean → isQualifiedName beanPackage = true := by
  cases schema with
  | none => simpa [resolveType] using hfallback
  | some schema =>
    have hiff := qualified_getD_javaType?_iff beanPackage schema required hfallback
    simpa [resolveType] using hiff

end Schema

/-! ### No schema has the type `void` -/

theorem Schema.isVoid_of_javaType? {beanPackage : String} {schema : Schema} {required : Bool}
    {type : JavaType} (h : javaType? beanPackage schema required = some type) :
    type.isVoid = false := by
  unfold javaType? at h
  split at h
  · obtain ⟨name, _, rfl⟩ := Option.map_eq_some_iff.mp h
    rfl
  · obtain ⟨t, _, ht⟩ := Option.bind_eq_some_iff.mp h
    exact DataType.isVoid_of_javaType? ht
  · cases h
    rfl
  · cases h
  · cases h
  · cases h
  · cases h

theorem Schema.isVoid_resolveType {beanPackage : String} {schema : Option Schema} {required : Bool}
    {fallback : JavaType} (hfallback : fallback.isVoid = false) :
    (resolveType beanPackage schema required fallback).isVoid = false := by
  rw [resolveType]
  cases htype : schema.bind (javaType? beanPackage · required) with
  | none => exact hfallback
  | some type =>
    obtain ⟨other, _, hother⟩ := Option.bind_eq_some_iff.mp htype
    exact isVoid_of_javaType? hother

/-! ### Results -/

namespace Settings

variable {s : Settings}

theorem qualified_responseType (s : Settings) : s.responseType.Qualified := by
  refine JavaType.qualified_plain_iff.mpr (JavaType.isQualifiedName_of_mem_libraryClasses _ ?_)
  cases s.edition <;> simp [JavaType.libraryClasses, Edition.root]

/-- The envelope of a result names a library class beside the result's own. -/
theorem qualified_envelope_iff {result : JavaType} :
    (s.envelope result).Qualified ↔ result.Qualified := by
  rw [envelope]
  split
  · split
    · rename_i hvoid
      cases result with
      | void => exact iff_of_true (qualified_responseType s) JavaType.qualified_void
      | primitive p => simp [JavaType.isVoid] at hvoid
      | named name args => simp [JavaType.isVoid] at hvoid
    · have hclass : isQualifiedName "org.jboss.resteasy.reactive.RestResponse" = true :=
        JavaType.isQualifiedName_of_mem_libraryClasses _ (by simp [JavaType.libraryClasses])
      rw [JavaType.qualified_named_iff, JavaType.qualified_boxed_iff]
      exact and_iff_right hclass
  · rfl

theorem qualified_wrapResult_iff {async : Bool} {result : JavaType} :
    (s.wrapResult async result).Qualified ↔ result.Qualified := by
  rw [wrapResult]
  split
  · have hclass : isQualifiedName s.wrapper.className = true := by
      refine JavaType.isQualifiedName_of_mem_libraryClasses _ ?_
      cases s.wrapper <;> simp [AsyncWrapper.className, JavaType.libraryClasses]
    rw [JavaType.qualified_named_iff, JavaType.qualified_boxed_iff, qualified_envelope_iff]
    exact and_iff_right hclass
  · exact qualified_envelope_iff

end Settings

end Jaxrs
