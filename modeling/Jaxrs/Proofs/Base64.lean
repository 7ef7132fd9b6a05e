import Jaxrs.Base64
import Mathlib.Data.Option.Basic

/-!
Base 64 read back. Every character but the padding stands for six bits, by its position in the
alphabet (`value?_digit`), so that the bytes of a text come out again whatever their number
(`decode?_encode`). No two sequences of bytes have the same text.
-/

set_option autoImplicit false

namespace Jaxrs.Base64

/-- The characters in the order of their values. -/
def alphabet : List Char :=
  "ABCDEFGHIJKLMNOPQRSTUVWXYZabcdefghijklmnopqrstuvwxyz0123456789+/".toList

def value? (c : Char) : Option Nat :=
  alphabet.idxOf? c

/-- The first of the bytes that two characters reach into. -/
def firstByte (x y : Nat) : UInt8 :=
  UInt8.ofNat (x * 4 + y / 16)

def secondByte (y z : Nat) : UInt8 :=
  UInt8.ofNat (y % 16 * 16 + z / 4)

def thirdByte (z w : Nat) : UInt8 :=
  UInt8.ofNat (z % 4 * 64 + w)

/-- Groups of four characters, of which only the last may be padded; the bits that a padded group
has left over are zero. -/
def decode? : List Char → Option (List UInt8)
  | [] => some []
  | [a, b, '=', '='] => do
    let x ← value? a
    let y ← value? b
    if y % 16 = 0 then some [firstByte x y] else none
  | [a, b, c, '='] => do
    let x ← value? a
    let y ← value? b
    let z ← value? c
    if z % 4 = 0 then some [firstByte x y, secondByte y z] else none
  | a :: b :: c :: d :: rest => do
    let x ← value? a
    let y ← value? b
    let z ← value? c
    let w ← value? d
    let bytes ← decode? rest
    some (firstByte x y :: secondByte y z :: thirdByte z w :: bytes)
  | _ => none

theorem value?_digit : ∀ n < 64, value? (digit n) = some n := by
  decide

theorem digit_ne_padding {n : Nat} (hn : n < 64) : digit n ≠ '=' := by
  intro h
  have hvalue := value?_digit n hn
  have hpadding : value? '=' = none := by decide
  rw [h, hpadding] at hvalue
  cases hvalue

section Bytes

variable {a b c : UInt8}

/-- How much of the next byte stands in the second character does not matter. -/
theorem firstByte_eq (y : Nat) (hy : y < 16) :
    firstByte (a.toNat / 4) (a.toNat % 4 * 16 + y) = a := by
  have hvalue : a.toNat / 4 * 4 + (a.toNat % 4 * 16 + y) / 16 = a.toNat := by omega
  rw [firstByte, hvalue, UInt8.ofNat_toNat]

theorem secondByte_eq (x z : Nat) (hz : z < 4) :
    secondByte (x * 16 + b.toNat / 16) (b.toNat % 16 * 4 + z) = b := by
  have hb := b.toNat_lt
  have hvalue : (x * 16 + b.toNat / 16) % 16 * 16 + (b.toNat % 16 * 4 + z) / 4 = b.toNat := by
    omega
  rw [secondByte, hvalue, UInt8.ofNat_toNat]

theorem thirdByte_eq (y : Nat) : thirdByte (y * 4 + c.toNat / 64) (c.toNat % 64) = c := by
  have hc := c.toNat_lt
  have hvalue : (y * 4 + c.toNat / 64) % 4 * 64 + c.toNat % 64 = c.toNat := by omega
  rw [thirdByte, hvalue, UInt8.ofNat_toNat]

end Bytes

theorem decode?_encode (bytes : List UInt8) : decode? (encode bytes) = some bytes := by
  induction bytes using encode.induct with
  | case1 => rfl
  | case2 a =>
    have ha := a.toNat_lt
    have hx := value?_digit (a.toNat / 4) (by omega)
    have hy := value?_digit (a.toNat % 4 * 16) (by omega)
    have hzero : a.toNat % 4 * 16 % 16 = 0 := by omega
    have hfirst := firstByte_eq (a := a) 0 (by decide)
    rw [Nat.add_zero] at hfirst
    simp [encode, decode?, hx, hy, hzero, hfirst]
  | case3 a b =>
    have ha := a.toNat_lt
    have hb := b.toNat_lt
    have hx := value?_digit (a.toNat / 4) (by omega)
    have hy := value?_digit (a.toNat % 4 * 16 + b.toNat / 16) (by omega)
    have hz := value?_digit (b.toNat % 16 * 4) (by omega)
    have hzero : b.toNat % 16 * 4 % 4 = 0 := by omega
    have hsecond := secondByte_eq (b := b) (a.toNat % 4) 0 (by decide)
    rw [Nat.add_zero] at hsecond
    have hgroup := decode?.eq_3 (digit (a.toNat / 4)) (digit (a.toNat % 4 * 16 + b.toNat / 16))
      (digit (b.toNat % 16 * 4)) (digit_ne_padding (by omega))
    simp [encode, hgroup, hx, hy, hz, hzero, hsecond,
      firstByte_eq (a := a) (b.toNat / 16) (by omega)]
  | case4 a b c rest ih =>
    have ha := a.toNat_lt
    have hb := b.toNat_lt
    have hc := c.toNat_lt
    have hx := value?_digit (a.toNat / 4) (by omega)
    have hy := value?_digit (a.toNat % 4 * 16 + b.toNat / 16) (by omega)
    have hz := value?_digit (b.toNat % 16 * 4 + c.toNat / 64) (by omega)
    have hw := value?_digit (c.toNat % 64) (by omega)
    have hpadding := digit_ne_padding (n := c.toNat % 64) (by omega)
    simp [encode, decode?, hx, hy, hz, hw, hpadding, ih, thirdByte_eq,
      firstByte_eq (a := a) (b.toNat / 16) (by omega),
      secondByte_eq (b := b) (a.toNat % 4) (c.toNat / 64) (by omega)]

theorem encode_injective : Function.Injective encode := by
  intro bytes bytes' h
  have hdecode := decode?_encode bytes
  rw [h, decode?_encode] at hdecode
  exact (Option.some.inj hdecode).symm

end Jaxrs.Base64
