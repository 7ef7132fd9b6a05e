import Jaxrs.Proofs.Synthesis.Correspondence

/-!
The constraints of a schema, one by one. They come in the order of their ranks, and no two have the
same one, so that a list of them is known when its members are; `ValueSchema.Prescribes` says which
those are. A bound is an integer where the values are integers and 64 bits have room for it, and
keeps its own text otherwise, so that no bound is ever another number than the one that was asked
for. `Schema.prescribes_constraints` puts this together, and says that integer bounds are only on
integers.
-/

set_option autoImplicit false

namespace Jaxrs

/-- The place of a constraint among those of a value. The two forms of a bound share a place. -/
def Constraint.rank : Constraint → Nat
  | notNull => 0
  | min _ => 1
  | decimalMin _ => 1
  | max _ => 2
  | decimalMax _ => 2
  | size _ _ => 3
  | pattern _ => 4

/-- The two ends of a range. -/
inductive Side where
  | lower
  | upper

namespace Side

def whole : Side → Int → Constraint
  | lower => .min
  | upper => .max

def decimal : Side → String → Constraint
  | lower => .decimalMin
  | upper => .decimalMax

def rank : Side → Nat
  | lower => 1
  | upper => 2

theorem exists_iff {p : Side → Prop} : (∃ side, p side) ↔ p lower ∨ p upper := by
  constructor
  · rintro ⟨_ | _, h⟩
    · exact Or.inl h
    · exact Or.inr h
  · rintro (h | h)
    · exact ⟨lower, h⟩
    · exact ⟨upper, h⟩

theorem rank_le (side : Side) : side.rank ≤ 2 := by
  cases side <;> decide

theorem rank_injective : Function.Injective rank := by
  intro side other h
  cases side <;> cases other <;> first | rfl | exact absurd h (by decide)

@[simp] theorem rank_whole (side : Side) (i : Int) : (side.whole i).rank = side.rank := by
  cases side <;> rfl

@[simp] theorem rank_decimal (side : Side) (text : String) :
    (side.decimal text).rank = side.rank := by
  cases side <;> rfl

@[simp] theorem whole_inj (side : Side) {i j : Int} : side.whole i = side.whole j ↔ i = j := by
  cases side <;> simp [whole]

@[simp] theorem decimal_inj (side : Side) {text other : String} :
    side.decimal text = side.decimal other ↔ text = other := by
  cases side <;> simp [decimal]

@[simp] theorem whole_ne_decimal (side : Side) (i : Int) (text : String) :
    side.whole i ≠ side.decimal text := by
  cases side <;> simp [whole, decimal]

@[simp] theorem decimal_ne_whole (side : Side) (text : String) (i : Int) :
    side.decimal text ≠ side.whole i :=
  (side.whole_ne_decimal i text).symm

end Side

namespace ValueSchema

def bound (v : ValueSchema) : Side → Option Number
  | .lower => v.minimum
  | .upper => v.maximum

/-- The bound at one end of the range, among the constraints. -/
structure BoundedBy (v : ValueSchema) (side : Side) (ks : List Constraint) : Prop where
  present_iff : ((∃ i, side.whole i ∈ ks) ∨ ∃ text, side.decimal text ∈ ks) ↔
    ∃ n ∈ v.bound side, n ≠ .nonFinite
  whole_iff (i : Int) : side.whole i ∈ ks ↔
    v.type.primary? = some .integer ∧ v.bound side = some (.integer i) ∧
      -2 ^ 63 ≤ i ∧ i ≤ 2 ^ 63 - 1
  decimal_iff (text : String) : side.decimal text ∈ ks ↔
    (∀ i, side.whole i ∉ ks) ∧ ∃ n ∈ v.bound side, n.text? = some text

/-- The constraints of a single value. -/
structure Prescribes (v : ValueSchema) (ks : List Constraint) : Prop where
  bounds (side : Side) : v.BoundedBy side ks
  size_iff (least greatest : Option Nat) : .size least greatest ∈ ks ↔
    (least = v.minLength ∧ greatest = v.maxLength) ∧ (least ≠ none ∨ greatest ≠ none)
  pattern_iff (regex : String) : .pattern regex ∈ ks ↔ v.pattern = some regex

end ValueSchema

/-- The constraints of a value that a schema, if there is one, describes. -/
def Schema.Prescribes : Option Schema → List Constraint → Prop
  | some (value v), ks => v.Prescribes ks
  | some (array _ minItems maxItems), ks =>
    ∀ k, k ∈ ks ↔ k = .size minItems maxItems ∧ (minItems ≠ none ∨ maxItems ≠ none)
  | _, ks => ks = []

/-! ### Numbers -/

namespace Number

variable {n : Number}

theorem signed?_eq_some_iff {i : Int} :
    n.signed? = some i ↔ n = .integer i ∧ -2 ^ 63 ≤ i ∧ i ≤ 2 ^ 63 - 1 := by
  cases n with
  | integer j =>
    rw [signed?]
    split
    · rename_i h
      have hrange : -2 ^ 63 ≤ j ∧ j ≤ 2 ^ 63 - 1 := h
      constructor
      · intro heq
        obtain rfl := Option.some.inj heq
        exact ⟨rfl, hrange⟩
      · rintro ⟨heq, _⟩
        rw [Number.integer.inj heq]
    · rename_i h
      refine iff_of_false (by simp) ?_
      rintro ⟨heq, hrange⟩
      obtain rfl := Number.integer.inj heq
      exact h hrange
  | double x => simp [signed?]
  | nonFinite => simp [signed?]

theorem exists_text?_iff : (∃ text, n.text? = some text) ↔ n ≠ .nonFinite := by
  cases n <;> simp [text?]

theorem bound?_eq_some_iff {integral : Bool} {side : Side} {k : Constraint} :
    bound? integral side.whole side.decimal n = some k ↔
      (∃ i, integral = true ∧ n.signed? = some i ∧ k = side.whole i) ∨
        ¬ (integral = true ∧ ∃ i, n.signed? = some i) ∧
          ∃ text, n.text? = some text ∧ k = side.decimal text := by
  cases hn : n.signed? <;> cases integral <;> simp [bound?, hn, eq_comm]

end Number

/-! ### The parts of a list of constraints -/

namespace Constraint

theorem mem_sizes_iff {least greatest : Option Nat} {k : Constraint} : k ∈ sizes least greatest ↔
    k = .size least greatest ∧ (least ≠ none ∨ greatest ≠ none) := by
  rw [sizes]
  cases least <;> cases greatest <;> simp

/-- The constraints are in the order of their ranks, all of them above one and up to the other. -/
structure Ranked (low high : Nat) (ks : List Constraint) : Prop where
  pairwise : ks.Pairwise (·.rank < ·.rank)
  above : ∀ k ∈ ks, low < k.rank
  below : ∀ k ∈ ks, k.rank ≤ high

theorem Ranked.mono {low high bottom top : Nat} {ks : List Constraint} (h : Ranked low high ks)
    (hlow : bottom ≤ low) (hhigh : high ≤ top) : Ranked bottom top ks where
  pairwise := h.pairwise
  above k hk := hlow.trans_lt (h.above k hk)
  below k hk := (h.below k hk).trans hhigh

theorem Ranked.append {low middle high : Nat} {ks ls : List Constraint} (hks : Ranked low middle ks)
    (hls : Ranked middle high ls) (hlow : low ≤ middle) (hhigh : middle ≤ high) :
    Ranked low high (ks ++ ls) where
  pairwise := by
    refine List.pairwise_append.mpr ⟨hks.pairwise, hls.pairwise, fun k hk l hl ↦ ?_⟩
    exact (hks.below k hk).trans_lt (hls.above l hl)
  above := List.forall_mem_append.mpr ⟨hks.above, (hls.mono hlow le_rfl).above⟩
  below := List.forall_mem_append.mpr ⟨(hks.mono le_rfl hhigh).below, hls.below⟩

theorem ranked_nil {low high : Nat} : Ranked low high [] :=
  ⟨List.Pairwise.nil, by simp, by simp⟩

theorem ranked_singleton {low high : Nat} {k : Constraint} (hlow : low < k.rank)
    (hhigh : k.rank ≤ high) : Ranked low high [k] :=
  ⟨List.pairwise_singleton _ _, by simpa, by simpa⟩

theorem ranked_toList {low : Nat} {k : Option Constraint} (h : ∀ c ∈ k, c.rank = low + 1) :
    Ranked low (low + 1) k.toList := by
  cases k with
  | none => exact ranked_nil
  | some k =>
    have hrank : k.rank = low + 1 := h k rfl
    exact ranked_singleton (Nat.lt_of_succ_le hrank.ge) hrank.le

theorem ranked_sizes (least greatest : Option Nat) : Ranked 2 3 (sizes least greatest) := by
  rw [sizes]
  split
  · exact ranked_singleton (Nat.lt_succ_self 2) (Nat.le_refl 3)
  · exact ranked_nil

end Constraint

namespace ValueSchema

variable {v : ValueSchema}

/-- The constraint for one end of the range. -/
def boundConstraint (v : ValueSchema) (side : Side) : Option Constraint :=
  (v.bound side).bind (Number.bound? v.isIntegral side.whole side.decimal)

theorem constraints_eq : v.constraints =
    (v.boundConstraint .lower).toList ++ (v.boundConstraint .upper).toList ++
      Constraint.sizes v.minLength v.maxLength ++ (v.pattern.map Constraint.pattern).toList :=
  rfl

theorem boundConstraint_eq_some_iff {side : Side} {k : Constraint} :
    v.boundConstraint side = some k ↔ ∃ n ∈ v.bound side,
      (∃ i, v.isIntegral = true ∧ n.signed? = some i ∧ k = side.whole i) ∨
        ¬ (v.isIntegral = true ∧ ∃ i, n.signed? = some i) ∧
          ∃ text, n.text? = some text ∧ k = side.decimal text := by
  rw [boundConstraint, Option.bind_eq_some_iff]
  simp only [Number.bound?_eq_some_iff, Option.mem_def]

theorem rank_of_boundConstraint {side : Side} {k : Constraint}
    (h : v.boundConstraint side = some k) :
    k.rank = side.rank := by
  obtain ⟨n, _, ⟨i, _, _, rfl⟩ | ⟨_, text, _, rfl⟩⟩ := boundConstraint_eq_some_iff.mp h
  · exact side.rank_whole i
  · exact side.rank_decimal text

theorem boundConstraint_ne_some {side : Side} {k : Constraint} (hk : 2 < k.rank) :
    v.boundConstraint side ≠ some k :=
  fun h ↦ absurd side.rank_le (Nat.not_le_of_lt (rank_of_boundConstraint h ▸ hk))

theorem mem_constraints_iff {k : Constraint} : k ∈ v.constraints ↔
    (∃ side, v.boundConstraint side = some k) ∨
      (k = .size v.minLength v.maxLength ∧ (v.minLength ≠ none ∨ v.maxLength ≠ none)) ∨
      ∃ regex, v.pattern = some regex ∧ k = .pattern regex := by
  rw [constraints_eq, Side.exists_iff, List.mem_append, List.mem_append, List.mem_append,
    Option.mem_toList, Option.mem_toList, Option.mem_toList, Constraint.mem_sizes_iff,
    Option.map_eq_some_iff, or_assoc]
  simp only [@eq_comm _ k]

/-- A constraint on one end of the range comes from the bound at that end. -/
theorem mem_constraints_iff_of_rank {side : Side} {k : Constraint} (hk : k.rank = side.rank) :
    k ∈ v.constraints ↔ v.boundConstraint side = some k := by
  have hlt : k.rank < 3 := Nat.lt_succ_of_le (hk ▸ side.rank_le)
  rw [mem_constraints_iff]
  constructor
  · rintro (⟨other, h⟩ | ⟨rfl, _⟩ | ⟨regex, _, rfl⟩)
    · have hrank : other.rank = side.rank := (rank_of_boundConstraint h).symm.trans hk
      obtain rfl : other = side := Side.rank_injective hrank
      exact h
    · exact absurd hlt (by simp [Constraint.rank])
    · exact absurd hlt (by simp [Constraint.rank])
  · exact fun h ↦ Or.inl ⟨side, h⟩

theorem whole_mem_constraints_iff {side : Side} {i : Int} : side.whole i ∈ v.constraints ↔
    ∃ n ∈ v.bound side, v.isIntegral = true ∧ n.signed? = some i := by
  rw [mem_constraints_iff_of_rank (side.rank_whole i), boundConstraint_eq_some_iff]
  simp

theorem decimal_mem_constraints_iff {side : Side} {text : String} :
    side.decimal text ∈ v.constraints ↔ ∃ n ∈ v.bound side,
      ¬ (v.isIntegral = true ∧ ∃ i, n.signed? = some i) ∧ n.text? = some text := by
  rw [mem_constraints_iff_of_rank (side.rank_decimal text), boundConstraint_eq_some_iff]
  simp

theorem isIntegral_iff : v.isIntegral = true ↔ v.type.primary? = some .integer := by
  rw [isIntegral, beq_iff_eq]

/-- A text is written where no integer is. -/
theorem decimal_mem_iff_forall_whole_not_mem {side : Side} {text : String} :
    side.decimal text ∈ v.constraints ↔
      (∀ i, side.whole i ∉ v.constraints) ∧ ∃ n ∈ v.bound side, n.text? = some text := by
  rw [decimal_mem_constraints_iff]
  constructor
  · rintro ⟨n, hn, hsigned, htext⟩
    refine ⟨fun i hi ↦ hsigned ?_, n, hn, htext⟩
    obtain ⟨other, hother, hintegral, hi⟩ := whole_mem_constraints_iff.mp hi
    obtain rfl : n = other := Option.mem_unique hn hother
    exact ⟨hintegral, i, hi⟩
  · rintro ⟨hwhole, n, hn, htext⟩
    refine ⟨n, hn, ?_, htext⟩
    rintro ⟨hintegral, i, hi⟩
    exact hwhole i (whole_mem_constraints_iff.mpr ⟨n, hn, hintegral, hi⟩)

theorem boundedBy_constraints (v : ValueSchema) (side : Side) : v.BoundedBy side v.constraints where
  present_iff := by
    constructor
    · rintro (⟨i, hi⟩ | ⟨text, htext⟩)
      · obtain ⟨n, hn, _, hi⟩ := whole_mem_constraints_iff.mp hi
        obtain ⟨rfl, _⟩ := Number.signed?_eq_some_iff.mp hi
        exact ⟨_, hn, by simp⟩
      · obtain ⟨n, hn, _, htext⟩ := decimal_mem_constraints_iff.mp htext
        exact ⟨n, hn, Number.exists_text?_iff.mp ⟨text, htext⟩⟩
    · rintro ⟨n, hn, hfinite⟩
      obtain ⟨text, htext⟩ := Number.exists_text?_iff.mpr hfinite
      by_cases hwhole : ∃ i, side.whole i ∈ v.constraints
      · exact Or.inl hwhole
      · refine Or.inr ⟨text, decimal_mem_iff_forall_whole_not_mem.mpr ?_⟩
        exact ⟨not_exists.mp hwhole, n, hn, htext⟩
  whole_iff i := by
    rw [whole_mem_constraints_iff, isIntegral_iff]
    constructor
    · rintro ⟨n, hn, hintegral, hi⟩
      obtain ⟨rfl, hrange⟩ := Number.signed?_eq_some_iff.mp hi
      exact ⟨hintegral, hn, hrange⟩
    · rintro ⟨hintegral, hn, hrange⟩
      exact ⟨_, hn, hintegral, Number.signed?_eq_some_iff.mpr ⟨rfl, hrange⟩⟩
  decimal_iff _ := decimal_mem_iff_forall_whole_not_mem

theorem prescribes_own (v : ValueSchema) : v.Prescribes v.constraints where
  bounds := v.boundedBy_constraints
  size_iff least greatest := by
    have hnone : ¬ ∃ side, v.boundConstraint side = some (.size least greatest) :=
      fun ⟨_, h⟩ ↦ boundConstraint_ne_some (by simp [Constraint.rank]) h
    rw [mem_constraints_iff, or_iff_right hnone]
    constructor
    · rintro (⟨heq, hpresent⟩ | ⟨_, _, heq⟩)
      · obtain ⟨rfl, rfl⟩ := Constraint.size.inj heq
        exact ⟨⟨rfl, rfl⟩, hpresent⟩
      · cases heq
    · rintro ⟨⟨rfl, rfl⟩, hpresent⟩
      exact Or.inl ⟨rfl, hpresent⟩
  pattern_iff regex := by
    have hnone : ¬ ∃ side, v.boundConstraint side = some (.pattern regex) :=
      fun ⟨_, h⟩ ↦ boundConstraint_ne_some (by simp [Constraint.rank]) h
    rw [mem_constraints_iff, or_iff_right hnone]
    simp

/-- One part of the constraints after another. -/
theorem ranked_constraints (v : ValueSchema) : Constraint.Ranked 0 4 v.constraints := by
  have hlower : Constraint.Ranked 0 1 (v.boundConstraint .lower).toList :=
    Constraint.ranked_toList fun _ hk ↦ rank_of_boundConstraint hk
  have hupper : Constraint.Ranked 1 2 (v.boundConstraint .upper).toList :=
    Constraint.ranked_toList fun _ hk ↦ rank_of_boundConstraint hk
  have hsizes : Constraint.Ranked 2 3 (Constraint.sizes v.minLength v.maxLength) :=
    Constraint.ranked_sizes v.minLength v.maxLength
  have hpattern : Constraint.Ranked 3 4 (v.pattern.map Constraint.pattern).toList := by
    refine Constraint.ranked_toList fun k hk ↦ ?_
    obtain ⟨regex, _, rfl⟩ := Option.map_eq_some_iff.mp hk
    rfl
  have hbounds := hlower.append hupper (by decide) (by decide)
  have hlengths := hbounds.append hsizes (by decide) (by decide)
  exact hlengths.append hpattern (by decide) (by decide)

end ValueSchema

/-! ### Integer bounds and the type of the value -/

theorem DataType.javaType?_integer (format : Option String) (required : Bool) :
    ∃ p, (p = .int ∨ p = .long) ∧
      DataType.integer.javaType? format required = some (.primitiveIf required p) := by
  by_cases hformat : format = some "int64"
  · refine ⟨.long, Or.inr rfl, ?_⟩
    rw [hformat]
    rfl
  · refine ⟨.int, Or.inl rfl, ?_⟩
    simp [javaType?]

namespace Schema

theorem resolveType_of_integer {v : ValueSchema} (h : v.type.primary? = some .integer)
    (beanPackage : String) (required : Bool) (fallback : JavaType) :
    ∃ p, (p = .int ∨ p = .long) ∧
      resolveType beanPackage (some (value v)) required fallback = .primitiveIf required p := by
  obtain ⟨p, hp, htype⟩ := DataType.javaType?_integer v.format required
  refine ⟨p, hp, ?_⟩
  rw [resolveType, Option.bind_some, javaType?, h]
  exact congrArg (Option.getD · fallback) htype

/-- Only the schema of integers has an integer bound among its constraints. -/
theorem resolveType_of_whole_mem {schema : Option Schema} {side : Side} {i : Int}
    (h : side.whole i ∈ constraints schema) (beanPackage : String) (required : Bool)
    (fallback : JavaType) :
    resolveType beanPackage schema required fallback ∈
      [.primitive .int, .primitive .long, .plain "java.lang.Integer", .plain "java.lang.Long"] := by
  have hsizes (least greatest : Option Nat) : side.whole i ∉ Constraint.sizes least greatest := by
    intro hmem
    obtain ⟨heq, _⟩ := Constraint.mem_sizes_iff.mp hmem
    cases side <;> cases heq
  unfold constraints at h
  split at h
  · rename_i v
    have hinteger := ((v.boundedBy_constraints side).whole_iff i).mp h
    obtain ⟨p, hp, htype⟩ := resolveType_of_integer hinteger.1 beanPackage required fallback
    rw [htype]
    rcases hp with rfl | rfl <;> cases required <;>
      simp [JavaType.primitiveIf, JavaType.boxed, Primitive.className]
  · exact absurd h (hsizes _ _)
  · exact absurd h List.not_mem_nil

theorem ranked_constraints (schema : Option Schema) :
    Constraint.Ranked 0 4 (constraints schema) := by
  unfold constraints
  split
  · exact ValueSchema.ranked_constraints _
  · exact (Constraint.ranked_sizes _ _).mono (by decide) (by decide)
  · exact Constraint.ranked_nil

/-- The constraints of a schema are those that it prescribes, each in its place, and a bound that is
written as an integer is on a value with the type of one. -/
theorem prescribes_constraints (schema : Option Schema) :
    Prescribes schema (constraints schema) ∧
      (constraints schema).Pairwise (·.rank < ·.rank) ∧ .notNull ∉ constraints schema ∧
      ∀ (side : Side) (i : Int), side.whole i ∈ constraints schema →
        ∀ (beanPackage : String) (required : Bool) (fallback : JavaType),
          resolveType beanPackage schema required fallback ∈
            [.primitive .int, .primitive .long, .plain "java.lang.Integer",
              .plain "java.lang.Long"] := by
  have hprescribes : Prescribes schema (constraints schema) := by
    match schema with
    | none => rfl
    | some (reference _) => rfl
    | some (value v) => exact v.prescribes_own
    | some (array _ _ _) => exact fun _ ↦ Constraint.mem_sizes_iff
    | some (oneOf _) => rfl
    | some (allOf _) => rfl
    | some (anyOf _) => rfl
  exact ⟨hprescribes, (ranked_constraints schema).pairwise, notNull_not_mem_constraints schema,
    fun _ _ ↦ resolveType_of_whole_mem⟩

/-- A bound just past 63 bits is kept as it is, and so is a whole number written with a point. -/
example : constraints (some (.value ⟨.among [.null, .integer], none,
    some (.double ⟨false, 1 <<< 52, -52⟩), some (.integer (2 ^ 63)), none, none, none⟩)) =
      [.decimalMin "1.0", .decimalMax "9223372036854775808"] := by
  decide +kernel

end Schema

end Jaxrs
