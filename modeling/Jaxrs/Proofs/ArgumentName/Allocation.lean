import Jaxrs.Proofs.Synthesis

/-!
The names of one method, one after the other. `Search` is the search for a name as it runs, with no
bound on it: a candidate in use makes way for the base with the next number. There are more
candidates than names in use (`exists_candidate_not_mem`), so the search ends, and `fresh` is what
it ends with (`search_iff`). A further argument leaves the names before its own as they are
(`allocate_concat`), so that what holds of one choice holds of all names of a method
(`isAllocation_parameters`).
-/

set_option autoImplicit false

namespace Jaxrs.ArgumentName

/-- From a candidate and a counter, the search for a name that is not in use ends with a result. -/
inductive Search (used : List String) (b : String) : String → Nat → String → Prop
  | free {candidate : String} {counter : Nat} (h : candidate ∉ used) :
    Search used b candidate counter candidate
  | taken {candidate result : String} {counter : Nat} (h : candidate ∈ used)
    (rest : Search used b (b ++ toString counter) (counter + 1) result) :
    Search used b candidate counter result

theorem Search.unique {used : List String} {b candidate result result' : String} {counter : Nat}
    (h : Search used b candidate counter result) (h' : Search used b candidate counter result') :
    result = result' := by
  induction h with
  | free hfree =>
    cases h' with
    | free _ => rfl
    | taken htaken _ => exact absurd htaken hfree
  | taken htaken _ ih =>
    cases h' with
    | free hfree => exact absurd htaken hfree
    | taken _ rest => exact ih rest

/-- The name that a base comes to after other names: the base itself if it is free, and otherwise
the base with the least number that makes it so. -/
inductive Choice (earlier : List String) (b : String) : String → Prop
  | base (free : b ∉ earlier) : Choice earlier b b
  | numbered (k : Nat) (two_le : 2 ≤ k) (le_length : k ≤ earlier.length + 1) (taken : b ∈ earlier)
    (free : b ++ toString k ∉ earlier)
    (least : ∀ j, 2 ≤ j → j < k → b ++ toString j ∈ earlier) :
    Choice earlier b (b ++ toString k)

/-! ### Candidates -/

/-- The base, and then the base with the numbers from 2 on. -/
def candidate (b : String) : Nat → String
  | 0 => b
  | n + 1 => b ++ toString (n + 2)

theorem candidate_injective (b : String) : Function.Injective (candidate b) := by
  have hlonger (n : Nat) : b ≠ b ++ toString (n + 2) := by
    intro h
    have hchars := congrArg String.toList h
    simp [Nat.toDigits_ne_nil] at hchars
  intro m n h
  cases m with
  | zero =>
    cases n with
    | zero => rfl
    | succ n => exact absurd h (hlonger n)
  | succ m =>
    cases n with
    | zero => exact absurd h.symm (hlonger m)
    | succ n =>
      have hnumber : m + 2 = n + 2 := Nat.repr_inj.mp ((String.append_right_inj b).mp h)
      omega

theorem candidates_eq_map (b : String) (used : List String) :
    candidates b used = (List.range (used.length + 1)).map (candidate b) := by
  rw [List.range_succ_eq_map, List.map_cons, List.map_map]
  rfl

/-- Distinct candidates, one more of them than there are names in use, are not all in use. -/
theorem exists_candidate_not_mem (b : String) (used : List String) :
    ∃ n ≤ used.length, candidate b n ∉ used := by
  by_contra hall
  push Not at hall
  have hnodup : (candidates b used).Nodup := by
    rw [candidates_eq_map]
    exact List.nodup_range.map (candidate_injective b)
  have hsubset : candidates b used ⊆ used := by
    intro w hw
    rw [candidates_eq_map] at hw
    obtain ⟨n, hn, rfl⟩ := List.mem_map.mp hw
    exact hall n (by simpa [Nat.lt_succ_iff] using hn)
  have hlength := hnodup.length_le_of_subset hsubset
  rw [candidates_eq_map, List.length_map, List.length_range] at hlength
  omega

/-! ### One choice -/

theorem fresh_eq_candidate (used : List String) (name : String) :
    ∃ n ≤ used.length, fresh used name = candidate (base name) n ∧
      candidate (base name) n ∉ used ∧ ∀ m < n, candidate (base name) m ∈ used := by
  obtain ⟨n, hn, hfree⟩ := exists_candidate_not_mem (base name) used
  have hsome : ((List.range (used.length + 1)).find? fun n ↦
      ! used.contains (candidate (base name) n)).isSome := by
    rw [List.find?_isSome]
    exact ⟨n, List.mem_range.mpr (Nat.lt_succ_of_le hn), by simpa using hfree⟩
  obtain ⟨k, hk⟩ := Option.isSome_iff_exists.mp hsome
  obtain ⟨hfreeK, hmem, hleast⟩ := List.find?_range_eq_some.mp hk
  refine ⟨k, Nat.le_of_lt_succ (List.mem_range.mp hmem), ?_, by simpa using hfreeK, ?_⟩
  · rw [fresh, candidates_eq_map, List.find?_map, Function.comp_def, hk]
    rfl
  · intro m hm
    simpa using hleast m hm

theorem fresh_not_mem (used : List String) (name : String) : fresh used name ∉ used := by
  obtain ⟨n, _, heq, hfree, _⟩ := fresh_eq_candidate used name
  rwa [heq]

/-- It does not matter in which order the names in use have been taken. -/
theorem fresh_congr {used used' : List String} (h : ∀ w, w ∈ used ↔ w ∈ used') (name : String) :
    fresh used name = fresh used' name := by
  obtain ⟨n, _, heq, hfree, hleast⟩ := fresh_eq_candidate used name
  obtain ⟨n', _, heq', hfree', hleast'⟩ := fresh_eq_candidate used' name
  have hle : n ≤ n' := Nat.le_of_not_lt fun hlt ↦ hfree' ((h _).mp (hleast n' hlt))
  have hge : n' ≤ n := Nat.le_of_not_lt fun hlt ↦ hfree ((h _).mpr (hleast' n hlt))
  rw [heq, heq', Nat.le_antisymm hle hge]

theorem fresh_eq_base {used : List String} {name : String} (h : base name ∉ used) :
    fresh used name = base name := by
  obtain ⟨n, _, heq, _, hleast⟩ := fresh_eq_candidate used name
  cases n with
  | zero => exact heq
  | succ n => exact absurd (hleast 0 (Nat.succ_pos n)) h

theorem choice_fresh (used : List String) (name : String) :
    Choice used (base name) (fresh used name) := by
  obtain ⟨n, hn, heq, hfree, hleast⟩ := fresh_eq_candidate used name
  rw [heq]
  cases n with
  | zero => exact .base hfree
  | succ n =>
    refine .numbered (n + 2) (by omega) (by omega) (hleast 0 (Nat.succ_pos n)) hfree ?_
    intro j htwo hlt
    obtain ⟨i, rfl⟩ : ∃ i, j = i + 2 := ⟨j - 2, by omega⟩
    exact hleast (i + 1) (by omega)

/-- The search goes on from the `m`th candidate to the first free one. -/
theorem search_candidate {used : List String} {b : String} {m n : Nat} (hmn : m ≤ n)
    (hfree : candidate b n ∉ used) (htaken : ∀ i, m ≤ i → i < n → candidate b i ∈ used) :
    Search used b (candidate b m) (m + 2) (candidate b n) := by
  induction hmn using Nat.decreasingInduction with
  | self => exact .free hfree
  | of_succ m hlt ih =>
    refine .taken (htaken m (Nat.le_refl m) hlt) ?_
    exact ih fun i hi ↦ htaken i (Nat.le_of_succ_le hi)

/-- The search from the base on ends, and it ends with the name that is chosen. -/
theorem search_iff {used : List String} {name w : String} :
    Search used (base name) (base name) 2 w ↔ w = fresh used name := by
  have hfresh : Search used (base name) (base name) 2 (fresh used name) := by
    obtain ⟨n, _, heq, hfree, hleast⟩ := fresh_eq_candidate used name
    rw [heq]
    exact search_candidate (Nat.zero_le n) hfree fun i _ hi ↦ hleast i hi
  constructor
  · intro h
    exact h.unique hfresh
  · rintro rfl
    exact hfresh

/-! ### The names of a method -/

theorem allocateFrom_append (used names rest : List String) :
    allocateFrom used (names ++ rest) =
      allocateFrom used names ++ allocateFrom ((allocateFrom used names).reverse ++ used) rest := by
  induction names generalizing used with
  | nil => rfl
  | cons name names ih => simp [allocateFrom, ih]

/-- One more argument gets the name that is free after the names before it. -/
theorem allocate_concat (names : List String) (name : String) :
    allocate (names ++ [name]) = allocate names ++ [fresh (allocate names) name] := by
  have hused : fresh ((allocate names).reverse ++ []) name = fresh (allocate names) name :=
    fresh_congr (by simp) name
  rw [allocate, allocateFrom_append, ← allocate, allocateFrom, allocateFrom, hused]

theorem allocate_prefix (names rest : List String) :
    allocate names <+: allocate (names ++ rest) := by
  rw [allocate, allocate, allocateFrom_append]
  exact List.prefix_append _ _

/-- The names at the front depend on no later argument. -/
theorem take_allocate (names : List String) (i : Nat) :
    (allocate names).take i = allocate (names.take i) := by
  have hfront := allocate_prefix (names.take i) (names.drop i)
  rw [List.take_append_drop, List.prefix_iff_eq_take, length_allocate, List.length_take] at hfront
  rw [hfront, ← List.take_take, ← length_allocate names, List.take_length]

theorem getElem_allocate {names : List String} {i : Nat} (h : i < names.length)
    (h' : i < (allocate names).length) :
    (allocate names)[i] = fresh ((allocate names).take i) names[i] := by
  have hlast : (allocate names).take (i + 1) =
      (allocate names).take i ++ [fresh ((allocate names).take i) names[i]] := by
    rw [take_allocate, take_allocate, ← allocate_concat, List.take_concat_get' names i h]
  rw [← List.take_concat_get' (allocate names) i h'] at hlast
  exact List.singleton_inj.mp (List.append_cancel_left hlast)

theorem nodup_allocate (names : List String) : (allocate names).Nodup := by
  induction names using List.reverseRecOn with
  | nil => exact List.nodup_nil
  | append_singleton names name ih =>
    rw [allocate_concat, ← List.concat_eq_append]
    exact ih.concat (fresh_not_mem (allocate names) name)

theorem allocate_eq_map_base {names : List String} (h : (names.map base).Nodup) :
    allocate names = names.map base := by
  induction names using List.reverseRecOn with
  | nil => rfl
  | append_singleton names name ih =>
    rw [List.map_append, List.map_singleton, ← List.concat_eq_append, List.nodup_concat] at h
    obtain ⟨hfree, hnodup⟩ := h
    rw [allocate_concat, ih hnodup, fresh_eq_base hfree, List.map_append, List.map_singleton]

/-- What the names that arguments get have to do with the names that a description gives them. -/
structure IsAllocation (names allocated : List String) : Prop where
  length_eq : allocated.length = names.length
  nodup : allocated.Nodup
  isIdentifier : ∀ w ∈ allocated, isIdentifier w = true
  /-- Each name is chosen after those of the arguments before it. -/
  choice : ∀ (i : Nat) (h : i < names.length) (h' : i < allocated.length),
    Choice (allocated.take i) (base names[i]) allocated[i]
  search : ∀ (i : Nat) (h : i < names.length) (h' : i < allocated.length) (w : String),
    Search (allocated.take i) (base names[i]) (base names[i]) 2 w ↔ w = allocated[i]
  eq_map_base : (names.map base).Nodup → allocated = names.map base

theorem isAllocation_allocate (names : List String) : IsAllocation names (allocate names) where
  length_eq := length_allocate names
  nodup := nodup_allocate names
  isIdentifier _ hw := isIdentifier_of_mem_allocate hw
  choice i h h' := by
    rw [getElem_allocate h h']
    exact choice_fresh _ _
  search i h h' w := by
    rw [getElem_allocate h h']
    exact search_iff
  eq_map_base := allocate_eq_map_base

end Jaxrs.ArgumentName

namespace Jaxrs

theorem Operation.map_name_parameters (beanPackage : String) (op : Operation) :
    (op.parameters beanPackage).map Parameter.name =
      ArgumentName.allocate (op.arguments.map Argument.name) := by
  have hnames : (op.parameters beanPackage).map Parameter.name =
      (op.arguments.zip (ArgumentName.allocate (op.arguments.map Argument.name))).map Prod.snd := by
    rw [parameters, List.map_zipWith, List.map_zip_eq_zipWith]
    rfl
  rw [hnames, List.map_snd_zip (by simp)]

/-- The names of a method's parameters are chosen one after the other, all of them different, and an
argument that comes later has no part in those before it. -/
theorem ArgumentName.isAllocation_parameters :
    (∀ names, IsAllocation names (allocate names)) ∧
      (∀ names rest, allocate names <+: allocate (names ++ rest)) ∧
      ∀ s beanPackage render (op : Operation) m, op.method s beanPackage render = .ok m →
        IsAllocation (op.arguments.map Argument.name) (m.parameters.map Parameter.name) := by
  refine ⟨isAllocation_allocate, allocate_prefix, fun s beanPackage render op m hm ↦ ?_⟩
  obtain ⟨v, _, rfl⟩ := Operation.method_eq_ok_iff.mp hm
  rw [op.map_name_parameters]
  exact isAllocation_allocate _

/-- Two arguments share a base, and the first name that the second of them could have instead of it
is that of another argument. -/
def findPet : Operation where
  name := "find"
  path := none
  verb := "GET"
  description := none
  produces := none
  consumes := none
  async := none
  arguments := ["pet_id2", "pet-id", "pet_id", "2fa", "class"].map fun name ↦
    ⟨name, .query, false, none, false, []⟩
  response := none

theorem ArgumentName.isAllocation_parameters_findPet : ∃ m,
    findPet.method {} "org.acme.beans" id = .ok m ∧
      m.parameters.map Parameter.name = ["pet_id2", "pet_id", "pet_id3", "_2fa", "_class"] ∧
      IsAllocation (findPet.arguments.map Argument.name) (m.parameters.map Parameter.name) :=
  ⟨_, rfl, by decide +kernel, isAllocation_parameters.2.2 {} "org.acme.beans" id findPet _ rfl⟩

end Jaxrs
