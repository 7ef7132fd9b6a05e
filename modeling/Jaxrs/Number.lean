import Jaxrs.Number.Shortest

/-!
Numbers of a document: integers, which keep their value exactly, and floating-point numbers. A
number written with a point or an exponent stays a floating-point number, whatever its value.
-/

set_option autoImplicit false

namespace Jaxrs

inductive Number where
  | integer (n : Int)
  | double (x : Double)
  /-- Infinite, or not a number. -/
  | nonFinite
  deriving DecidableEq, Repr

namespace Number

def text? : Number → Option String
  | integer n => some (toString n)
  | double x => some x.text
  | nonFinite => none

def leastSigned : Int := -9223372036854775808

def greatestSigned : Int := 9223372036854775807

def greatestUnsigned : Int := 18446744073709551615

/-- The value of an integer that fits in 64 bits with a sign. -/
def signed? : Number → Option Int
  | integer n => if leastSigned ≤ n ∧ n ≤ greatestSigned then some n else none
  | _ => none

/-- The value of a natural number that fits in 64 bits. -/
def unsigned? : Number → Option Nat
  | integer n => if 0 ≤ n ∧ n ≤ greatestUnsigned then some n.toNat else none
  | _ => none

end Number

end Jaxrs
