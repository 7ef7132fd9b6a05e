/-!
Finite binary floating-point numbers of 64 bits, as sign, mantissa and exponent. Every operation
computes the exact rational result and rounds it once, to the nearest number and on a tie to the
even mantissa.
-/

set_option autoImplicit false

namespace Jaxrs

/--
The number `± mantissa · 2 ^ exponent`. The mantissa has 53 bits, or fewer at the least exponent,
so that equal numbers of one sign are equal values.
-/
structure Double where
  negative : Bool
  mantissa : Nat
  exponent : Int
  deriving DecidableEq, Repr

namespace Double

def leastExponent : Int := -1074

def greatestExponent : Int := 971

def zero (negative : Bool) : Double :=
  ⟨negative, 0, leastExponent⟩

def isZero (x : Double) : Bool :=
  x.mantissa == 0

/-- The quotient rounded to the nearest natural number, a tie to the even one. -/
def roundDiv (num den : Nat) : Nat :=
  let q := num / den
  let r := num % den
  if 2 * r < den then q
  else if 2 * r > den then q + 1
  else if q % 2 = 0 then q else q + 1

/-- `10 ^ n`. -/
def powerOfTen (n : Nat) : Nat :=
  Nat.pow 10 n

/-- `num / den` in units of `2 ^ exponent`, as a numerator and a denominator. -/
def inUnits (num den : Nat) (exponent : Int) : Nat × Nat :=
  if exponent ≥ 0 then (num, den <<< exponent.toNat) else (num <<< (-exponent).toNat, den)

/-- The exponent at which the quotient has a 53-bit integral part, or the least exponent. -/
def scale (num den : Nat) : Int :=
  let guess : Int := (num.log2 : Int) - (den.log2 : Int) - 52
  let (n, d) := inUnits num den guess
  max leastExponent (if n / d < 1 <<< 52 then guess - 1 else guess)

/-- The number nearest to `± num / den`; none if that is out of range. -/
def ofRatio (negative : Bool) (num den : Nat) : Option Double :=
  if num = 0 ∨ den = 0 then some (zero negative)
  else
    let e := scale num den
    let (n, d) := inUnits num den e
    let m := roundDiv n d
    let (m, e) := if m = 1 <<< 53 then (1 <<< 52, e + 1) else (m, e)
    if e > greatestExponent then none else some ⟨negative, m, e⟩

/-- The magnitude as a fraction. -/
def ratio (x : Double) : Nat × Nat :=
  if x.exponent ≥ 0 then (x.mantissa <<< x.exponent.toNat, 1)
  else (x.mantissa, 1 <<< (-x.exponent).toNat)

def mul (x y : Double) : Option Double :=
  ofRatio (x.negative != y.negative) (x.ratio.1 * y.ratio.1) (x.ratio.2 * y.ratio.2)

def div (x y : Double) : Option Double :=
  ofRatio (x.negative != y.negative) (x.ratio.1 * y.ratio.2) (x.ratio.2 * y.ratio.1)

def ofNat (n : Nat) : Option Double :=
  ofRatio false n 1

def tenPow (n : Nat) : Option Double :=
  ofNat (powerOfTen n)

def negateIf (negative : Bool) (x : Double) : Double :=
  { x with negative := negative }

/--
The number nearest to `significand · 10 ^ exponent`. Exponents far out of range are decided
without computing the power.
-/
def ofDecimal (negative : Bool) (significand : Nat) (exponent : Int) : Option Double :=
  let digits : Int := (Nat.toDigits 10 significand).length
  if significand = 0 ∨ exponent + digits < -400 then some (zero negative)
  else if exponent + digits > 400 then none
  else if exponent ≥ 0 then ofRatio negative (significand * powerOfTen exponent.toNat) 1
  else ofRatio negative significand (powerOfTen (-exponent).toNat)

/-- The exponent of the greatest power of ten that is in range. -/
def greatestTen : Nat := 308

/-- `x / 10 ^ n`, by one rounded power of ten at a time, the greatest first. -/
def lowerTen (x : Double) (n : Nat) : Option Double :=
  if n ≤ greatestTen then do x.div (← tenPow n)
  else if x.isZero then some x
  else do
    let y ← x.div (← tenPow greatestTen)
    y.lowerTen (n - greatestTen)
termination_by n
decreasing_by simp only [greatestTen] at *; omega

/-- `x · 10 ^ exponent`; none if that is out of range. -/
def shiftTen (x : Double) (exponent : Int) : Option Double :=
  if exponent < 0 then x.lowerTen exponent.natAbs
  else if exponent.toNat ≤ greatestTen then do x.mul (← tenPow exponent.toNat)
  else if x.isZero then some x
  else none

/-- The number that `significand · 10 ^ exponent` gives when the significand is rounded first. -/
def ofScaled (negative : Bool) (significand : Nat) (exponent : Int) : Option Double := do
  let x ← ofNat significand
  let y ← x.shiftTen exponent
  some (y.negateIf negative)

end Double

end Jaxrs
