import Jaxrs.Proofs.Synthesis.Constraint

/-!
Which lengths and patterns are on a type that has them. A size can be checked of a text or of a list
and a pattern of a text alone (`Constraint.Fits`). They come from the schema whatever its type is,
and so they fit exactly where the schema asks for them of a text without a class of its own, or of
an array that has items (`Resource.fits_interface_iff`): an identifier with a length or a number
with a pattern gets a constraint that nothing can check (`Resource.not_fits_trackers`).
-/

set_option autoImplicit false

namespace Jaxrs

namespace JavaType

def string : JavaType := plain "java.lang.String"

/-- A value of the type is a text or a list, and so has a length. -/
def HasLength (type : JavaType) : Prop :=
  type = string ∨ ∃ element, type = named "java.util.List" [element]

end JavaType

/-- Values of the type can be checked for the constraint. Only lengths and patterns are asked
about. -/
def Constraint.Fits (type : JavaType) : Constraint → Prop
  | size _ _ => type.HasLength
  | pattern _ => type = .string
  | _ => True

/-- A text, and not one whose format has a class of its own. -/
def ValueSchema.IsText (v : ValueSchema) : Prop :=
  v.type.primary? = some .string ∧
    v.format ∉ [some "date", some "date-time", some "uuid", some "binary"]

/-- Lengths and patterns are asked of texts, and numbers of items of arrays that have them. -/
def Schema.Measurable : Schema → Prop
  | value v => v.minLength ≠ none ∨ v.maxLength ≠ none ∨ v.pattern ≠ none → v.IsText
  | array none minItems maxItems => minItems = none ∧ maxItems = none
  | _ => True

/-! ### Types with a length -/

theorem DataType.javaType?_eq_string_iff {t : DataType} {format : Option String} {required : Bool} :
    t.javaType? format required = some .string ↔
      t = .string ∧ format ∉ [some "date", some "date-time", some "uuid", some "binary"] := by
  have hprimitive (p : Primitive) :
      JavaType.primitiveIf required p ≠ .plain "java.lang.String" := by
    cases required <;> cases p <;> simp [JavaType.primitiveIf, JavaType.boxed, Primitive.className]
  rw [JavaType.string]
  unfold javaType?
  split
  · split <;> simp [hprimitive]
  · split <;> simp [hprimitive]
  · simp [hprimitive]
  · split <;> simp_all [JavaType.inputStream]
  · simp
  · simp
  · simp

namespace Schema

variable {beanPackage : String} {required : Bool} {fallback : JavaType}

theorem resolveType_value_eq_string_iff {v : ValueSchema} (hfallback : fallback ≠ .string) :
    resolveType beanPackage (some (value v)) required fallback = .string ↔ v.IsText := by
  have hgetD (type : Option JavaType) : type.getD fallback = .string ↔ type = some .string := by
    cases type <;> simp [hfallback]
  rw [resolveType, hgetD, Option.bind_some, javaType?]
  refine Option.bind_eq_some_iff.trans ?_
  simp only [DataType.javaType?_eq_string_iff, ValueSchema.IsText]
  constructor
  · rintro ⟨t, htype, rfl, hformat⟩
    exact ⟨htype, hformat⟩
  · rintro ⟨htype, hformat⟩
    exact ⟨_, htype, rfl, hformat⟩

/-- The type of a single value has no arguments. -/
theorem resolveType_value_ne_list {v : ValueSchema}
    (hfallback : ∀ element, fallback ≠ .named "java.util.List" [element]) (element : JavaType) :
    resolveType beanPackage (some (value v)) required fallback ≠
      .named "java.util.List" [element] := by
  rw [resolveType, Option.bind_some]
  cases htype : javaType? beanPackage (value v) required with
  | none => exact hfallback element
  | some type =>
    rw [javaType?] at htype
    obtain ⟨t, _, ht⟩ := Option.bind_eq_some_iff.mp htype
    rcases DataType.javaType?_cases ht with ⟨p, rfl⟩ | ⟨name, _, rfl⟩
    · cases required <;> simp [JavaType.primitiveIf, JavaType.boxed]
    · simp

theorem hasLength_resolveType_value_iff {v : ValueSchema} (hfallback : ¬ fallback.HasLength) :
    (resolveType beanPackage (some (value v)) required fallback).HasLength ↔ v.IsText := by
  obtain ⟨hstring, hlist⟩ := not_or.mp hfallback
  rw [JavaType.HasLength, resolveType_value_eq_string_iff hstring, or_iff_left]
  rintro ⟨element, htype⟩
  exact resolveType_value_ne_list (not_exists.mp hlist) element htype

theorem hasLength_resolveType_array_iff {items : Option Schema} {minItems maxItems : Option Nat}
    (hfallback : ¬ fallback.HasLength) :
    (resolveType beanPackage (some (array items minItems maxItems)) required fallback).HasLength ↔
      items ≠ none := by
  rw [resolveType, Option.bind_some]
  cases items with
  | none =>
    rw [javaType?, Option.getD_none]
    exact iff_of_false hfallback (not_not_intro rfl)
  | some items =>
    rw [javaType?, Option.getD_some]
    exact iff_of_true (Or.inr ⟨_, rfl⟩) (Option.some_ne_none items)

/-- What is measured of a single value asks for a text. -/
theorem fits_value_iff {v : ValueSchema} (hfallback : ¬ fallback.HasLength) :
    (∀ k ∈ v.constraints,
        k.Fits (resolveType beanPackage (some (value v)) required fallback)) ↔
      (value v).Measurable := by
  have hlength :
      (resolveType beanPackage (some (value v)) required fallback).HasLength ↔ v.IsText :=
    hasLength_resolveType_value_iff hfallback
  have htext : resolveType beanPackage (some (value v)) required fallback = .string ↔ v.IsText :=
    resolveType_value_eq_string_iff fun h ↦ hfallback (Or.inl h)
  have hprescribes := v.prescribes_own
  constructor
  · intro h hmeasured
    rcases or_assoc.mpr hmeasured with hlengths | hpattern
    · have hsize := (hprescribes.size_iff v.minLength v.maxLength).mpr ⟨⟨rfl, rfl⟩, hlengths⟩
      exact hlength.mp (h _ hsize)
    · obtain ⟨regex, hregex⟩ := Option.ne_none_iff_exists'.mp hpattern
      exact htext.mp (h _ ((hprescribes.pattern_iff regex).mpr hregex))
  · intro h k hk
    cases k with
    | size least greatest =>
      obtain ⟨⟨rfl, rfl⟩, hlengths⟩ := (hprescribes.size_iff least greatest).mp hk
      exact hlength.mpr (h (or_assoc.mp (Or.inl hlengths)))
    | pattern regex =>
      have hpattern : v.pattern ≠ none := by
        rw [(hprescribes.pattern_iff regex).mp hk]
        exact Option.some_ne_none regex
      exact htext.mpr (h (Or.inr (Or.inr hpattern)))
    | notNull => trivial
    | min _ => trivial
    | max _ => trivial
    | decimalMin _ => trivial
    | decimalMax _ => trivial

/-- A number of items is asked of a list, unless the array has no items and so no type. -/
theorem fits_array_iff {items : Option Schema} {minItems maxItems : Option Nat}
    (hfallback : ¬ fallback.HasLength) :
    (∀ k ∈ Constraint.sizes minItems maxItems,
        k.Fits (resolveType beanPackage (some (array items minItems maxItems)) required fallback)) ↔
      (array items minItems maxItems).Measurable := by
  have hlength : (Constraint.size minItems maxItems).Fits
      (resolveType beanPackage (some (array items minItems maxItems)) required fallback) ↔
        items ≠ none := hasLength_resolveType_array_iff hfallback
  simp only [Constraint.mem_sizes_iff, and_imp, forall_eq, hlength]
  cases items with
  | some items => simp [Measurable]
  | none => simp [Measurable, imp_false, not_or]

theorem fits_constraints_iff {schema : Option Schema} (hfallback : ¬ fallback.HasLength) :
    (∀ k ∈ constraints schema, k.Fits (resolveType beanPackage schema required fallback)) ↔
      ∀ other ∈ schema, other.Measurable := by
  match schema with
  | none => simp [constraints]
  | some (value v) => simpa [constraints] using fits_value_iff hfallback
  | some (array items minItems maxItems) => simpa [constraints] using fits_array_iff hfallback
  | some (reference _) => simp [constraints, Measurable]
  | some (oneOf _) => simp [constraints, Measurable]
  | some (allOf _) => simp [constraints, Measurable]
  | some (anyOf _) => simp [constraints, Measurable]

end Schema

/-! ### Parameters -/

/-- An argument of no known type is an object or a stream. -/
theorem Argument.not_hasLength_fallbackType (a : Argument) : ¬ a.fallbackType.HasLength := by
  rw [fallbackType]
  split <;> simp [JavaType.HasLength, JavaType.inputStream, JavaType.object, JavaType.string]

theorem Argument.fits_parameter_iff {beanPackage name : String} (a : Argument) :
    (∀ k ∈ (a.parameter beanPackage name).constraints,
        k.Fits (a.parameter beanPackage name).type) ↔
      ∀ schema ∈ a.schema, schema.Measurable := by
  have hnotNull : ∀ k ∈ (if a.needsNotNull (a.type beanPackage) then [Constraint.notNull] else []),
      k.Fits (a.parameter beanPackage name).type := by
    intro k hk
    split at hk
    · rw [List.mem_singleton.mp hk]
      trivial
    · exact absurd hk List.not_mem_nil
  rw [constraints_parameter, List.forall_mem_append, and_iff_right hnotNull]
  exact Schema.fits_constraints_iff a.not_hasLength_fallbackType

/-- The constraints of a parameter can be checked exactly if its argument has a schema that measures
texts and lists only. -/
theorem Resource.fits_interface_iff {s : Settings} {beanPackage contextRoot : String}
    {render : String → String} {r : Resource} {i : Interface}
    (h : r.interface s beanPackage render contextRoot = .ok i) :
    List.Forall₂ (fun op m ↦ List.Forall₂ (fun (a : Argument) (p : Parameter) ↦
        (∀ k ∈ p.constraints, k.Fits p.type) ↔ ∀ schema ∈ a.schema, schema.Measurable)
      op.arguments m.parameters) r.operations i.methods := by
  refine forall₂_methods (fun op m hm ↦ ?_) h
  obtain ⟨v, _, rfl⟩ := Operation.method_eq_ok_iff.mp hm
  exact op.forall₂_parameters fun a _ _ ↦ a.fits_parameter_iff

/-- A tracker is asked for by an identifier of fixed length, a page of trackers by a number that is
short, and their owner by a name. -/
def trackers : Resource where
  package := "org.acme.api"
  name := "trackers"
  path := "/trackers"
  operations :=
    let text (format : Option String) (least greatest : Option Nat) : Schema :=
      .value ⟨.one .string, format, none, none, least, greatest, none⟩
    [{ name := "find"
       path := none
       verb := "get"
       description := none
       produces := none
       consumes := none
       async := none
       arguments :=
         [⟨"id", .query, true, some (text (some "uuid") (some 36) (some 36)), false, []⟩,
          ⟨"page", .query, false,
            some (.value ⟨.one .integer, none, none, none, none, some 3, some "[0-9]+"⟩), false,
            []⟩,
          ⟨"owner", .query, false, some (text none (some 1) none), false, []⟩]
       response := none }]

theorem Resource.fits_interface_iff_trackers : ∃ i,
    trackers.interface {} "org.acme.beans" id "" = .ok i ∧
      (i.methods.flatMap fun m ↦ m.parameters.map fun p ↦ (p.type.text, p.constraints)) =
        [("java.util.UUID", [.notNull, .size (some 36) (some 36)]),
         ("java.lang.Integer", [.size none (some 3), .pattern "[0-9]+"]),
         ("java.lang.String", [.size (some 1) none])] ∧
      List.Forall₂ (fun op m ↦ List.Forall₂ (fun (a : Argument) (p : Parameter) ↦
          (∀ k ∈ p.constraints, k.Fits p.type) ↔ ∀ schema ∈ a.schema, schema.Measurable)
        op.arguments m.parameters) trackers.operations i.methods :=
  ⟨_, rfl, by decide +kernel, fits_interface_iff rfl⟩

/-- A length is asked of an identifier, which has none, and a pattern of a number. -/
theorem Resource.not_fits_trackers : ∃ i m identifier page owner,
    trackers.interface {} "org.acme.beans" id "" = .ok i ∧
      i.methods = [m] ∧ m.parameters = [identifier, page, owner] ∧
      identifier.type = .plain "java.util.UUID" ∧ page.type = .plain "java.lang.Integer" ∧
      .size (some 36) (some 36) ∈ identifier.constraints ∧ .pattern "[0-9]+" ∈ page.constraints ∧
      ¬ (Constraint.size (some 36) (some 36)).Fits identifier.type ∧
      ¬ (Constraint.pattern "[0-9]+").Fits page.type := by
  have hidentifier : ¬ (Constraint.size (some 36) (some 36)).Fits (.plain "java.util.UUID") := by
    simp [Constraint.Fits, JavaType.HasLength, JavaType.string]
  have hpage : ¬ (Constraint.pattern "[0-9]+").Fits (.plain "java.lang.Integer") := by
    simp [Constraint.Fits, JavaType.string]
  exact ⟨_, _, _, _, _, rfl, rfl, rfl, rfl, rfl, by decide, by decide, hidentifier, hpage⟩

end Jaxrs
