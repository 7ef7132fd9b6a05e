import Jaxrs.Number
import Jaxrs.Text.Digits

/-!
Numerals of JSON. The digits that together fit in 64 bits make the significand and the others
only count as places; a whole numeral that fits is an integer, and any other numeral is the
significand, rounded, times a power of ten, rounded.
-/

set_option autoImplicit false

namespace Jaxrs.Json

open Text

structure Numeral where
  negative : Bool
  whole : List Char
  fraction : Option (List Char)
  exponent : Option Int
  deriving Repr

namespace Numeral

/-- The significand extended by the digits that fit, and the digits from the first that does not. -/
def takeFitting (significand : Nat) : List Char → Nat × List Char
  | [] => (significand, [])
  | d :: rest =>
    if 10 * significand + digitValue d < UInt64.size then
      takeFitting (10 * significand + digitValue d) rest
    else (significand, d :: rest)

/-- None if the magnitude is out of range. -/
def value? (n : Numeral) : Option Number :=
  let (whole, excess) := takeFitting 0 n.whole
  match n.fraction, n.exponent, excess with
  | none, none, [] =>
    if n.negative = false then some (.integer whole)
    else if whole = 0 ∨ whole > 1 <<< 63 then (Double.ofScaled true whole 0).map .double
    else some (.integer (-whole))
  | fraction, exponent, excess =>
    let places := fraction.getD []
    let (significand, unread) := takeFitting whole places
    let scale : Int := excess.length + unread.length - places.length + exponent.getD 0
    (Double.ofScaled n.negative significand scale).map .double

end Numeral

/-- The digits at the start of a text, and what follows them. -/
def spanDigits (s : List Char) : List Char × List Char :=
  (s.takeWhile Char.isDigit, s.dropWhile Char.isDigit)

theorem length_spanDigits_le (s : List Char) : (spanDigits s).2.length ≤ s.length :=
  length_dropWhile_le _ s

/-- No digit may follow a leading zero. -/
def whole? (s : List Char) : Option (List Char × List Char) :=
  match spanDigits s with
  | ([], _) => none
  | ('0' :: _ :: _, _) => none
  | (digits, rest) => some (digits, rest)

def fraction? : List Char → Option (Option (List Char) × List Char)
  | '.' :: s =>
    match spanDigits s with
    | ([], _) => none
    | (digits, rest) => some (some digits, rest)
  | s => some (none, s)

def exponentDigits? (negative : Bool) (s : List Char) : Option (Option Int × List Char) :=
  match spanDigits s with
  | ([], _) => none
  | (digits, rest) =>
    let e : Int := decimalValue digits
    some (some (if negative then -e else e), rest)

def exponent? : List Char → Option (Option Int × List Char)
  | c :: s =>
    if c = 'e' ∨ c = 'E' then
      match s with
      | '+' :: s => exponentDigits? false s
      | '-' :: s => exponentDigits? true s
      | s => exponentDigits? false s
    else some (none, c :: s)
  | [] => some (none, [])

/-- The numeral at the start of a text, and what follows it. -/
def numeral? (s : List Char) : Option (Numeral × List Char) := do
  let (negative, s) := match s with
    | '-' :: s => (true, s)
    | s => (false, s)
  let (whole, s) ← whole? s
  let (fraction, s) ← fraction? s
  let (exponent, s) ← exponent? s
  some (⟨negative, whole, fraction, exponent⟩, s)

theorem length_whole?_lt {s digits rest : List Char} (h : whole? s = some (digits, rest)) :
    rest.length < s.length := by
  unfold whole? at h
  have key : (spanDigits s).1 ++ (spanDigits s).2 = s := List.takeWhile_append_dropWhile
  split at h
  · simp at h
  · simp at h
  · rename_i ds r hne _ heq
    simp only [Option.some.injEq, Prod.mk.injEq] at h
    obtain ⟨rfl, rfl⟩ := h
    rw [heq] at key
    rw [← key, List.length_append]
    cases ds with
    | nil => exact absurd rfl hne
    | cons c cs => simp only [List.length_cons]; omega

theorem length_fraction?_le {s rest : List Char} {f : Option (List Char)}
    (h : fraction? s = some (f, rest)) : rest.length ≤ s.length := by
  unfold fraction? at h
  split at h
  · rename_i s
    have := length_spanDigits_le s
    split at h
    · simp at h
    · rename_i heq
      simp only [Option.some.injEq, Prod.mk.injEq] at h
      obtain ⟨-, rfl⟩ := h
      rw [heq] at this
      simp only [List.length_cons]
      exact Nat.le_succ_of_le this
  · simp only [Option.some.injEq, Prod.mk.injEq] at h
    exact Nat.le_of_eq (by rw [h.2])

theorem length_exponentDigits?_le {b : Bool} {s rest : List Char} {e : Option Int}
    (h : exponentDigits? b s = some (e, rest)) : rest.length ≤ s.length := by
  unfold exponentDigits? at h
  have := length_spanDigits_le s
  split at h
  · simp at h
  · rename_i heq
    simp only [Option.some.injEq, Prod.mk.injEq] at h
    obtain ⟨-, rfl⟩ := h
    rw [heq] at this
    exact this

theorem length_exponent?_le {s rest : List Char} {e : Option Int}
    (h : exponent? s = some (e, rest)) : rest.length ≤ s.length := by
  unfold exponent? at h
  split at h
  · rename_i c s
    split at h
    · split at h <;> have := length_exponentDigits?_le h <;>
        simp only [List.length_cons] at * <;> omega
    · simp only [Option.some.injEq, Prod.mk.injEq] at h
      exact Nat.le_of_eq (by rw [h.2])
  · simp only [Option.some.injEq, Prod.mk.injEq] at h
    exact Nat.le_of_eq (by rw [h.2])

theorem length_numeral?_lt {s rest : List Char} {n : Numeral}
    (h : numeral? s = some (n, rest)) : rest.length < s.length := by
  unfold numeral? at h
  simp only [Option.bind_eq_bind, Option.bind_eq_some_iff, Prod.exists, Option.some.injEq,
    Prod.mk.injEq] at h
  obtain ⟨w, s₁, hw, f, s₂, hf, e, s₃, he, -, rfl⟩ := h
  have h₁ := length_whole?_lt hw
  have h₂ := length_fraction?_le hf
  have h₃ := length_exponent?_le he
  split at h₁ <;> dsimp only at h₁
  · simp only [List.length_cons]; omega
  · omega

end Jaxrs.Json
