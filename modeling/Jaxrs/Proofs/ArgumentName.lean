import Jaxrs.ArgumentName
import Jaxrs.Proofs.Identifier

/-!
The names that arguments get are identifiers. A base is one: its characters are, or else they are
with an underscore in front (`base_eq_ite`), so that names which are identifiers are their own
bases, and no others are (`base_eq_self_iff`). A number after it does not make it a reserved word
(`isIdentifier_of_mem_allocate`).
-/

set_option autoImplicit false

namespace Jaxrs.ArgumentName

theorem isPart_sanitize (c : Char) : Identifier.isPart (sanitize c) = true := by
  rw [sanitize]
  split
  · assumption
  · decide

theorem sanitize_eq_self {c : Char} (hc : Identifier.isPart c = true) : sanitize c = c :=
  if_pos hc

/-- The name with an underscore in place of every character that no identifier has. -/
def sanitized (name : String) : String :=
  name.map sanitize

theorem toList_sanitized (name : String) : (sanitized name).toList = name.toList.map sanitize :=
  String.toList_map

theorem isPart_of_mem_sanitized (name : String) :
    ∀ c ∈ (sanitized name).toList, Identifier.isPart c = true := by
  intro c hc
  rw [toList_sanitized] at hc
  obtain ⟨d, _, rfl⟩ := List.mem_map.mp hc
  exact isPart_sanitize d

theorem sanitized_eq_self {name : String} (h : ∀ c ∈ name.toList, Identifier.isPart c = true) :
    sanitized name = name := by
  have hmap : name.toList.map sanitize = name.toList.map id :=
    List.map_congr_left fun c hc ↦ sanitize_eq_self (h c hc)
  rw [← String.toList_inj, toList_sanitized, hmap, List.map_id]

theorem sanitized_eq_empty_iff {name : String} : sanitized name = "" ↔ name = "" := by
  rw [← String.toList_eq_nil_iff, toList_sanitized, List.map_eq_nil_iff, String.toList_eq_nil_iff]

/-- Of the characters that identifiers have, only a digit in front or a reserved word makes none. -/
theorem isIdentifier_cons {c : Char} {rest : List Char}
    (h : ∀ d ∈ c :: rest, Identifier.isPart d = true) :
    isIdentifier (String.ofList (c :: rest)) =
      !(c.isDigit || isReservedWord (String.ofList (c :: rest))) := by
  have hrest : rest.all Identifier.isPart = true :=
    List.all_eq_true.mpr fun d hd ↦ h d (List.mem_cons_of_mem c hd)
  rw [isIdentifier, String.toList_ofList, Identifier.isShaped, hrest, Bool.and_true,
    Identifier.isStart_eq_not_isDigit (h c List.mem_cons_self), Bool.not_or]

/-- An underscore stands in front if the characters alone come to no identifier. -/
theorem base_eq_ite (name : String) :
    base name = if name = "" then "_arg"
      else if isIdentifier (sanitized name) = true then sanitized name
      else "_" ++ sanitized name := by
  have hparts := isPart_of_mem_sanitized name
  have hchars := toList_sanitized name
  rw [base, ← hchars]
  cases hcons : (sanitized name).toList with
  | nil =>
    rw [if_pos (sanitized_eq_empty_iff.mp (String.toList_eq_nil_iff.mp hcons))]
  | cons c rest =>
    have hne : name ≠ "" := fun h ↦ by
      rw [sanitized_eq_empty_iff.mpr h] at hcons
      exact absurd hcons.symm (List.cons_ne_nil c rest)
    have htext : String.ofList (c :: rest) = sanitized name := by
      rw [← hcons, String.ofList_toList]
    rw [hcons] at hparts
    have hidentifier := isIdentifier_cons hparts
    rw [htext] at hidentifier
    rw [if_neg hne, hidentifier]
    simp only [htext]
    cases c.isDigit || isReservedWord (sanitized name) <;> rfl

/-- The base of any name is an identifier. -/
theorem isIdentifier_base_of_name (name : String) : isIdentifier (base name) = true := by
  rw [base_eq_ite]
  split_ifs with hempty hidentifier
  · decide
  · exact hidentifier
  · have hchars : ("_" ++ sanitized name).toList = '_' :: (sanitized name).toList := by simp
    have hne : (sanitized name).toList ≠ [] := fun h ↦
      hempty (sanitized_eq_empty_iff.mp (String.toList_eq_nil_iff.mp h))
    rw [isIdentifier_iff]
    constructor
    · rw [hchars, Identifier.isShaped, Bool.and_eq_true]
      exact ⟨by decide, List.all_eq_true.mpr (isPart_of_mem_sanitized name)⟩
    · rw [← String.ofList_toList (s := "_" ++ sanitized name), hchars]
      exact not_mem_reservedWords_of_underscore hne

/-- A name is its own base if it is an identifier, and no other name is. -/
theorem base_eq_self_iff {name : String} : base name = name ↔ isIdentifier name = true := by
  constructor
  · intro h
    rw [← h]
    exact isIdentifier_base_of_name name
  · intro h
    have hself : sanitized name = name := sanitized_eq_self (isPart_of_isIdentifier h)
    rw [base_eq_ite, hself, if_neg (ne_empty_of_isIdentifier h), if_pos h]

/-- Every name gets an identifier, in which all is in place that an identifier may have, and a name
is left alone if it is one. -/
theorem legalizes_base :
    (∀ s, isIdentifier s = true ↔ Identifier.Legal s) ∧
    (∀ name, isIdentifier (base name) = true ∧ base name ≠ "_") ∧
    (∀ name, base name = name ↔ isIdentifier name = true) ∧
    (∀ name, base (base name) = base name) ∧
    ∀ name, base name = if name = "" then "_arg"
      else if isIdentifier (sanitized name) = true then sanitized name
      else "_" ++ sanitized name := by
  refine ⟨fun _ ↦ isIdentifier_iff_legal, fun name ↦ ?_, fun _ ↦ base_eq_self_iff, fun name ↦ ?_,
    base_eq_ite⟩
  · have hidentifier := isIdentifier_base_of_name name
    exact ⟨hidentifier, (isIdentifier_iff_legal.mp hidentifier).ne_underscore⟩
  · exact base_eq_self_iff.mpr (isIdentifier_base_of_name name)

/-- A separator by itself, a letter beyond ASCII and a line feed at the end. -/
example : ["", "-", "_", "2fa", "class", "größe", "pet\n"].map base =
    ["_arg", "__", "__", "_2fa", "_class", "gr__e", "pet_"] := by
  decide +kernel

/-- A number after an identifier leaves it one. -/
theorem isIdentifier_numbered {s : String} (hs : isIdentifier s = true) (n : Nat) :
    isIdentifier (s ++ toString n) = true := by
  have hdigits : ∀ c ∈ Nat.toDigits 10 n, c.isDigit = true := fun c hc ↦
    Nat.isDigit_of_mem_toDigits (by decide) (by decide) hc
  have hchars : (s ++ toString n).toList = s.toList ++ Nat.toDigits 10 n := by simp
  rw [isIdentifier_iff]
  constructor
  · rw [hchars]
    refine Identifier.isShaped_append (isIdentifier_iff.mp hs).1 fun c hc ↦ ?_
    rw [Identifier.isPart, hdigits c hc, Bool.or_true]
  · obtain ⟨c, hlast⟩ : ∃ c, (Nat.toDigits 10 n).getLast? = some c :=
      Option.isSome_iff_exists.mp (by simp [Nat.toDigits_ne_nil])
    refine not_mem_reservedWords_of_digit ?_ (hdigits c (List.mem_of_getLast? hlast))
    rw [hchars, List.getLast?_append, hlast]
    rfl

theorem isIdentifier_of_mem_candidates {name : String} {used : List String} {w : String}
    (h : w ∈ candidates (base name) used) : isIdentifier w = true := by
  rcases List.mem_cons.mp h with rfl | hnumbered
  · exact isIdentifier_base_of_name name
  · obtain ⟨i, _, rfl⟩ := List.mem_map.mp hnumbered
    exact isIdentifier_numbered (isIdentifier_base_of_name name) (i + 2)

theorem isIdentifier_fresh (used : List String) (name : String) :
    isIdentifier (fresh used name) = true := by
  rw [fresh]
  cases hfind : (candidates (base name) used).find? (! used.contains ·) with
  | none => exact isIdentifier_base_of_name name
  | some w => exact isIdentifier_of_mem_candidates (List.mem_of_find?_eq_some hfind)

theorem isIdentifier_of_mem_allocateFrom {used names : List String} {w : String}
    (h : w ∈ allocateFrom used names) : isIdentifier w = true := by
  induction names generalizing used with
  | nil => simp [allocateFrom] at h
  | cons name rest ih =>
    rcases List.mem_cons.mp h with rfl | hrest
    · exact isIdentifier_fresh used name
    · exact ih hrest

theorem isIdentifier_of_mem_allocate {names : List String} {w : String} (h : w ∈ allocate names) :
    isIdentifier w = true :=
  isIdentifier_of_mem_allocateFrom h

theorem length_allocateFrom (used names : List String) :
    (allocateFrom used names).length = names.length := by
  induction names generalizing used with
  | nil => rfl
  | cons name rest ih => rw [allocateFrom, List.length_cons, List.length_cons, ih]

@[simp] theorem length_allocate (names : List String) : (allocate names).length = names.length :=
  length_allocateFrom [] names

end Jaxrs.ArgumentName
