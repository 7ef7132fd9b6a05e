import Jaxrs.Constraint
import Jaxrs.Framework.Jaxrs
import Mathlib.Data.List.Forall2

/-!
Integer constants of Java, as the attributes of an annotation take them. `constant?` reads a text as
one: a decimal literal, with a minus in front of it or without, is a `long` if the letter L ends it
and an `int` otherwise, and its type must have room for it. A decimal numeral alone is therefore a
constant only within the range of `int` (`constant?_repr`), even where the attribute is a `long`.

The integers of an annotation are written as such numerals. `Schema.legalIntegers_constraints_iff`
is the main statement: the constraints of a schema have legal integers exactly if the bounds and
lengths that they come from are in the range of `int`.
-/

set_option autoImplicit false

namespace Jaxrs

namespace Java

/-- The types of integer literals. -/
inductive IntegerType where
  | int
  | long
  deriving DecidableEq, Repr

/-- An integer that a literal stands for, of the type of the literal. -/
structure Constant where
  type : IntegerType
  value : Int
  deriving DecidableEq, Repr

namespace IntegerType

def least : IntegerType → Int
  | int => -2147483648
  | long => -9223372036854775808

def greatest : IntegerType → Int
  | int => 2147483647
  | long => 9223372036854775807

/-- The type has room for the integer. -/
def Holds (t : IntegerType) (n : Int) : Prop :=
  t.least ≤ n ∧ n ≤ t.greatest

instance (t : IntegerType) (n : Int) : Decidable (t.Holds n) :=
  inferInstanceAs (Decidable (_ ∧ _))

/-- The integer as a constant of the type. -/
def constantOf? (t : IntegerType) (n : Int) : Option Constant :=
  if t.Holds n then some ⟨t, n⟩ else none

end IntegerType

/-- The value of a decimal numeral. A zero in front of other digits would make them octal. -/
def numeral? (digits : List Char) : Option Nat :=
  if digits = ['0'] then some 0
  else if digits.head?.any (· != '0') && digits.all Char.isDigit then
    some (Nat.ofDigitChars 10 digits 0)
  else none

/-- The type and the value of a literal. -/
def literal? (s : List Char) : Option (IntegerType × Nat) :=
  if s.getLast? = some 'L' ∨ s.getLast? = some 'l' then
    (numeral? s.dropLast).map (IntegerType.long, ·)
  else (numeral? s).map (IntegerType.int, ·)

/-- The constant that a text is. The least integer of a type has no literal without its minus. -/
def constant? : List Char → Option Constant
  | '-' :: s => (literal? s).bind fun l => l.1.constantOf? (-l.2)
  | s => (literal? s).bind fun l => l.1.constantOf? l.2

/-- An attribute of the type takes the text as a constant. An `int` may stand for a `long`, but a
`long` for nothing else. -/
def IntegerType.Accepts (t : IntegerType) (text : String) : Prop :=
  ∃ c, constant? text.toList = some c ∧ (c.type = .int ∨ t = .long)

/-! ### Numerals -/

private theorem isDigit_of_mem_toDigits {n : Nat} {c : Char} (hc : c ∈ Nat.toDigits 10 n) :
    c.isDigit = true :=
  Nat.isDigit_of_mem_toDigits (by decide) (by decide) hc

/-- The induction is on the number without its last digit. -/
private theorem head?_toDigits_ne_zero {n : Nat} (hn : n ≠ 0) :
    (Nat.toDigits 10 n).head?.any (· != '0') = true := by
  induction n using Nat.strongRecOn with
  | ind n ih =>
    by_cases hlt : n < 10
    · have hdigit : ∀ d < 10, d ≠ 0 → [Nat.digitChar d].head?.any (· != '0') = true := by decide
      rw [Nat.toDigits_of_lt_base hlt]
      exact hdigit n hlt hn
    · have hdiv : n / 10 ≠ 0 := by omega
      have hhead := ih (n / 10) (by omega) hdiv
      rw [Nat.toDigits_of_base_le (by decide) (by omega)]
      cases hdigits : Nat.toDigits 10 (n / 10) with
      | nil => exact absurd hdigits Nat.toDigits_ne_nil
      | cons c rest =>
        rw [hdigits] at hhead
        simpa using hhead

theorem numeral?_toDigits (n : Nat) : numeral? (Nat.toDigits 10 n) = some n := by
  have hdigits : (Nat.toDigits 10 n).all Char.isDigit = true :=
    List.all_eq_true.mpr fun c hc ↦ isDigit_of_mem_toDigits hc
  by_cases hn : n = 0
  · subst hn
    decide
  · have hhead := head?_toDigits_ne_zero hn
    have hne : Nat.toDigits 10 n ≠ ['0'] := by
      intro heq
      rw [heq] at hhead
      exact absurd hhead (by decide)
    rw [numeral?, if_neg hne, hhead, hdigits, Nat.ofDigitChars_ten_toDigits]
    rfl

/-- A numeral ends with a digit, so that nothing makes it a `long`. -/
theorem literal?_toDigits (n : Nat) : literal? (Nat.toDigits 10 n) = some (.int, n) := by
  have hlast {c : Char} (hc : (Nat.toDigits 10 n).getLast? = some c) : c.isDigit = true :=
    isDigit_of_mem_toDigits (List.mem_of_getLast? hc)
  have hsuffix : ¬ ((Nat.toDigits 10 n).getLast? = some 'L' ∨
      (Nat.toDigits 10 n).getLast? = some 'l') := by
    rintro (hupper | hlower)
    · exact absurd (hlast hupper) (by decide)
    · exact absurd (hlast hlower) (by decide)
  rw [literal?, if_neg hsuffix, numeral?_toDigits]
  rfl

theorem constant?_of_ne_minus {s : List Char} (h : s.head? ≠ some '-') :
    constant? s = (literal? s).bind fun l => l.1.constantOf? l.2 := by
  unfold constant?
  split
  · exact absurd rfl h
  · rfl

/-- The numeral of an integer is a constant of type `int`, or none at all. -/
theorem constant?_repr (n : Int) : constant? n.repr.toList = IntegerType.int.constantOf? n := by
  cases n with
  | ofNat n =>
    have hchars : (Int.ofNat n).repr.toList = Nat.toDigits 10 n := Nat.toList_repr
    have hminus : (Nat.toDigits 10 n).head? ≠ some '-' := by
      intro hhead
      exact absurd (isDigit_of_mem_toDigits (List.mem_of_head? hhead)) (by decide)
    rw [hchars, constant?_of_ne_minus hminus, literal?_toDigits, Option.bind_some]
    rfl
  | negSucc n =>
    have hrepr : (Int.negSucc n).repr = "-" ++ (n + 1).repr := rfl
    have hchars : (Int.negSucc n).repr.toList = '-' :: Nat.toDigits 10 (n + 1) := by
      rw [hrepr, String.toList_append, Nat.toList_repr]
      rfl
    have hvalue : -((n + 1 : Nat) : Int) = Int.negSucc n := rfl
    rw [hchars, constant?, literal?_toDigits, Option.bind_some]
    exact congrArg IntegerType.int.constantOf? hvalue

namespace IntegerType

/-- No attribute takes a numeral beyond the range of `int`, whatever its own type is. -/
@[simp] theorem accepts_repr_iff (t : IntegerType) (n : Int) :
    t.Accepts n.repr ↔ int.Holds n := by
  rw [Accepts, constant?_repr, constantOf?]
  split
  · rename_i hn
    exact iff_of_true ⟨_, rfl, Or.inl rfl⟩ hn
  · rename_i hn
    refine iff_of_false ?_ hn
    rintro ⟨c, hc, _⟩
    cases hc

@[simp] theorem accepts_natRepr_iff (t : IntegerType) (n : Nat) :
    t.Accepts n.repr ↔ int.Holds n :=
  t.accepts_repr_iff n

end IntegerType

end Java

/-! ### Attributes -/

/-- An attribute of an annotation that is declared with the type of an integer. -/
structure IntegerAttribute where
  annotation : String
  name : String
  type : Java.IntegerType

/-- The integer attributes of Bean Validation: bounds are of type `long`, sizes are not. -/
def Framework.integerAttributes (edition : Edition) : List IntegerAttribute :=
  [⟨validation edition "Min", "value", .long⟩,
   ⟨validation edition "Max", "value", .long⟩,
   ⟨validation edition "Size", "min", .int⟩,
   ⟨validation edition "Size", "max", .int⟩]

/-- Every value of an attribute that is an integer is a constant that the attribute takes. -/
def Annotation.LegalIntegers (edition : Edition) (a : Annotation) : Prop :=
  ∀ declared ∈ Framework.integerAttributes edition, ∀ v ∈ a.values,
    a.name = declared.annotation → v.name = declared.name → declared.type.Accepts v.literal

/-- All that the constraint says in integers is in the range of `int`. -/
def Constraint.InIntRange : Constraint → Prop
  | .min n => Java.IntegerType.int.Holds n
  | .max n => Java.IntegerType.int.Holds n
  | .size least greatest => ∀ n : Nat, n ∈ least ∨ n ∈ greatest → Java.IntegerType.int.Holds n
  | _ => True

namespace Framework

theorem validation_inj {edition : Edition} {a b : String} :
    validation edition a = validation edition b ↔ a = b :=
  String.append_right_inj _

variable {edition : Edition}

/-- What an annotation of Bean Validation has to show for each of its values. -/
theorem legalIntegers_validation_iff {name : String} {values : List AnnotationValue} :
    (⟨validation edition name, values⟩ : Annotation).LegalIntegers edition ↔
      ∀ v ∈ values,
        ((name = "Min" ∨ name = "Max") → v.name = "value" →
          Java.IntegerType.long.Accepts v.literal) ∧
        (name = "Size" → v.name = "min" ∨ v.name = "max" →
          Java.IntegerType.int.Accepts v.literal) := by
  simp only [integerAttributes, Annotation.LegalIntegers, List.forall_mem_cons, List.not_mem_nil,
    validation_inj]
  constructor
  · rintro ⟨hmin, hmax, hleast, hgreatest, _⟩ v hv
    refine ⟨?_, ?_⟩
    · rintro (rfl | rfl) hvalue
      · exact hmin v hv rfl hvalue
      · exact hmax v hv rfl hvalue
    · rintro rfl (hvalue | hvalue)
      · exact hleast v hv rfl hvalue
      · exact hgreatest v hv rfl hvalue
  · intro h
    refine ⟨?_, ?_, ?_, ?_, ?_⟩
    · exact fun v hv hname ↦ (h v hv).1 (Or.inl hname)
    · exact fun v hv hname ↦ (h v hv).1 (Or.inr hname)
    · exact fun v hv hname hvalue ↦ (h v hv).2 hname (Or.inl hvalue)
    · exact fun v hv hname hvalue ↦ (h v hv).2 hname (Or.inr hvalue)
    · exact fun _ hdeclared ↦ nomatch hdeclared

theorem legalIntegers_bound_iff {name : String} (hname : name = "Min" ∨ name = "Max") (n : Int) :
    Annotation.LegalIntegers edition (.single (validation edition name) (toString n)) ↔
      Java.IntegerType.int.Holds n := by
  have hsize : name ≠ "Size" := by
    rcases hname with rfl | rfl <;> decide
  unfold Annotation.single
  rw [legalIntegers_validation_iff, List.forall_mem_singleton]
  simp [hname, hsize]

theorem legalIntegers_size_iff {least greatest : Option Nat} :
    (⟨validation edition "Size", sizeValues least greatest⟩ : Annotation).LegalIntegers edition ↔
      ∀ n : Nat, n ∈ least ∨ n ∈ greatest → Java.IntegerType.int.Holds n := by
  rw [legalIntegers_validation_iff, sizeValues, List.forall_mem_append]
  cases least <;> cases greatest <;> simp [or_imp, forall_and]

theorem legalIntegers_constraint_iff {k : Constraint} :
    ((jaxrs edition).constraint k).LegalIntegers edition ↔ k.InIntRange := by
  have hother {name : String} {values : List AnnotationValue}
      (hname : name ∉ ["Min", "Max", "Size"]) :
      (⟨validation edition name, values⟩ : Annotation).LegalIntegers edition := by
    simp only [List.mem_cons, List.not_mem_nil, or_false, not_or] at hname
    refine legalIntegers_validation_iff.mpr fun v _ ↦ ⟨?_, ?_⟩
    · rintro (hmin | hmax)
      · exact absurd hmin hname.1
      · exact absurd hmax hname.2.1
    · exact fun hsize ↦ absurd hsize hname.2.2
  cases k with
  | notNull => exact iff_of_true (hother (by decide)) trivial
  | min n => exact legalIntegers_bound_iff (Or.inl rfl) n
  | max n => exact legalIntegers_bound_iff (Or.inr rfl) n
  | decimalMin s => exact iff_of_true (hother (by decide)) trivial
  | decimalMax s => exact iff_of_true (hother (by decide)) trivial
  | size least greatest => exact legalIntegers_size_iff
  | pattern s => exact iff_of_true (hother (by decide)) trivial

end Framework

/-! ### Schemas -/

/-- The bounds that are written as integers and the lengths are all in the range of `int`. -/
structure ValueSchema.IntBounded (v : ValueSchema) : Prop where
  bounds : v.isIntegral = true → ∀ bound, bound ∈ v.minimum ∨ bound ∈ v.maximum →
    ∀ n, bound.signed? = some n → Java.IntegerType.int.Holds n
  lengths : ∀ n : Nat, n ∈ v.minLength ∨ n ∈ v.maxLength → Java.IntegerType.int.Holds n

def Schema.IntBounded : Schema → Prop
  | value v => v.IntBounded
  | array _ minItems maxItems =>
    ∀ n : Nat, n ∈ minItems ∨ n ∈ maxItems → Java.IntegerType.int.Holds n
  | _ => True

namespace Constraint

/-- No size constraint is there without a bound. -/
theorem inIntRange_sizes_iff {least greatest : Option Nat} :
    (∀ k ∈ sizes least greatest, k.InIntRange) ↔
      ∀ n : Nat, n ∈ least ∨ n ∈ greatest → Java.IntegerType.int.Holds n := by
  rw [sizes]
  split
  · rw [List.forall_mem_singleton]
    rfl
  · rename_i hnone
    have hboth : least = none ∧ greatest = none := by simpa using hnone
    simp [hboth]

/-- A bound is in the range of `int`, or it is not written as an integer. -/
theorem inIntRange_bound?_iff (integral : Bool) (bound : Option Number)
    {whole : Int → Constraint} {decimal : String → Constraint}
    (hwhole : ∀ n, (whole n).InIntRange ↔ Java.IntegerType.int.Holds n)
    (hdecimal : ∀ s, (decimal s).InIntRange) :
    (∀ k ∈ (bound.bind (Number.bound? integral whole decimal)).toList, k.InIntRange) ↔
      (integral = true → ∀ number ∈ bound, ∀ n, number.signed? = some n →
        Java.IntegerType.int.Holds n) := by
  cases bound with
  | none => simp
  | some number =>
    have htext : ∀ k ∈ (number.text?.map decimal).toList, k.InIntRange := by
      simp [hdecimal]
    cases integral with
    | false =>
      have hbound : Number.bound? false whole decimal number = number.text?.map decimal := by
        cases hn : number.signed? <;> simp [Number.bound?, hn]
      simpa [hbound] using htext
    | true =>
      cases hn : number.signed? with
      | none =>
        have hbound : Number.bound? true whole decimal number = number.text?.map decimal := by
          simp [Number.bound?, hn]
        simpa [hbound, hn] using htext
      | some n =>
        have hbound : Number.bound? true whole decimal number = some (whole n) := by
          simp [Number.bound?, hn]
        simp [hbound, hn, hwhole]

end Constraint

theorem ValueSchema.inIntRange_constraints_iff (v : ValueSchema) :
    (∀ k ∈ v.constraints, k.InIntRange) ↔ v.IntBounded := by
  have hminimum : (∀ k ∈ (v.minimum.bind (Number.bound? v.isIntegral .min .decimalMin)).toList,
      k.InIntRange) ↔ _ :=
    Constraint.inIntRange_bound?_iff v.isIntegral v.minimum (fun _ ↦ Iff.rfl) fun _ ↦ trivial
  have hmaximum : (∀ k ∈ (v.maximum.bind (Number.bound? v.isIntegral .max .decimalMax)).toList,
      k.InIntRange) ↔ _ :=
    Constraint.inIntRange_bound?_iff v.isIntegral v.maximum (fun _ ↦ Iff.rfl) fun _ ↦ trivial
  have hpattern : ∀ k ∈ (v.pattern.map Constraint.pattern).toList, k.InIntRange := by
    intro k hk
    obtain ⟨s, _, rfl⟩ := Option.map_eq_some_iff.mp (Option.mem_toList.mp hk)
    trivial
  rw [constraints, List.forall_mem_append, List.forall_mem_append, List.forall_mem_append, hminimum,
    hmaximum, Constraint.inIntRange_sizes_iff, and_iff_left hpattern]
  constructor
  · rintro ⟨⟨hleast, hgreatest⟩, hlengths⟩
    refine ⟨fun hintegral bound hbound ↦ ?_, hlengths⟩
    rcases hbound with hbound | hbound
    · exact hleast hintegral bound hbound
    · exact hgreatest hintegral bound hbound
  · rintro ⟨hbounds, hlengths⟩
    refine ⟨⟨fun hintegral bound hbound ↦ ?_, fun hintegral bound hbound ↦ ?_⟩, hlengths⟩
    · exact hbounds hintegral bound (Or.inl hbound)
    · exact hbounds hintegral bound (Or.inr hbound)

namespace Schema

theorem inIntRange_constraints_iff (schema : Option Schema) :
    (∀ k ∈ constraints schema, k.InIntRange) ↔ ∀ other ∈ schema, other.IntBounded := by
  cases schema with
  | none => simp [constraints]
  | some schema =>
    have hsome : (∀ other ∈ some schema, other.IntBounded) ↔ schema.IntBounded := by simp
    rw [hsome]
    cases schema with
    | value v => exact v.inIntRange_constraints_iff
    | array items minItems maxItems => exact Constraint.inIntRange_sizes_iff
    | reference location => simp [constraints, IntBounded]
    | oneOf schemas => simp [constraints, IntBounded]
    | allOf schemas => simp [constraints, IntBounded]
    | anyOf schemas => simp [constraints, IntBounded]

/-- The integers of a schema's constraints are legal exactly if they are in the range of `int`. -/
theorem legalIntegers_constraints_iff (edition : Edition) (schema : Option Schema) :
    (∀ k ∈ constraints schema, ((Framework.jaxrs edition).constraint k).LegalIntegers edition) ↔
      ∀ other ∈ schema, other.IntBounded := by
  simp only [Framework.legalIntegers_constraint_iff]
  exact inIntRange_constraints_iff schema

/-- A number that only a `long` has room for, as the least value of one. -/
def serialNumber : Schema :=
  .value ⟨.one .integer, some "int64", some (.integer 3000000000), none, none, none, none⟩

/-- The bound is written without the letter that would make it a `long`. -/
theorem not_legalIntegers_serialNumber :
    constraints (some serialNumber) = [.min 3000000000] ∧
      (Framework.jaxrs .jakarta).constraint (.min 3000000000) =
        .single "jakarta.validation.constraints.Min" "3000000000" ∧
      Java.constant? "3000000000".toList = none ∧
      Java.constant? "3000000000L".toList = some ⟨.long, 3000000000⟩ ∧
      ¬ ((Framework.jaxrs .jakarta).constraint (.min 3000000000)).LegalIntegers .jakarta := by
  have hbeyond : ¬ Java.IntegerType.int.Holds 3000000000 := by decide
  refine ⟨by decide, by decide, by decide +kernel, by decide +kernel, ?_⟩
  rw [Framework.legalIntegers_constraint_iff]
  exact hbeyond

end Schema

end Jaxrs
