import Jaxrs.Number.Double

/-!
The fewest decimal digits that read back as a given number, and of those the nearest to it. For
each count of digits the two neighbours of the number on the decimal grid are compared with the
interval of reals that round to the number.
-/

set_option autoImplicit false

namespace Jaxrs.Double

/-- `digits · 10 ^ exponent`. -/
structure Decimal where
  digits : Nat
  exponent : Int
  deriving DecidableEq, Repr

/--
The reals that round to a positive number, as a fraction for each end. Below a power of two the
next number is half as far away. The ends belong to it if the mantissa is even.
-/
structure Interval where
  low : Nat × Nat
  high : Nat × Nat
  closed : Bool

def interval (x : Double) : Interval :=
  let quarter (m : Nat) : Nat × Nat := ratio ⟨false, m, x.exponent - 2⟩
  let below := if x.mantissa = 1 <<< 52 ∧ x.exponent > leastExponent then 1 else 2
  ⟨quarter (4 * x.mantissa - below), quarter (4 * x.mantissa + 2), x.mantissa % 2 = 0⟩

def Interval.contains (i : Interval) (num den : Nat) : Bool :=
  let low := (i.low.1 * den, num * i.low.2)
  let high := (num * i.high.2, i.high.1 * den)
  if i.closed then low.1 ≤ low.2 && high.1 ≤ high.2 else low.1 < low.2 && high.1 < high.2

/-- `n · 10 ^ exponent` as a fraction. -/
def gridPoint (n : Nat) (exponent : Int) : Nat × Nat :=
  if exponent ≥ 0 then (n * powerOfTen exponent.toNat, 1) else (n, powerOfTen (-exponent).toNat)

/-- The nearest point of the grid with step `10 ^ exponent` that reads back, if any does. -/
def onGrid? (x : Double) (exponent : Int) : Option Nat :=
  let (num, den) := x.ratio
  let step := gridPoint 1 exponent
  let n := num * step.2
  let d := den * step.1
  let low := n / d
  let reads (k : Nat) : Bool := let p := gridPoint k exponent; x.interval.contains p.1 p.2
  let nearLow := 2 * (n % d) < d || 2 * (n % d) == d && low % 2 == 0
  match reads low, reads (low + 1) with
  | true, true => some (if nearLow then low else low + 1)
  | true, false => some low
  | false, true => some (low + 1)
  | false, false => none

/-- The exponent of the first significant decimal digit of a positive number. -/
def leadingExponent (x : Double) : Int :=
  let (num, den) := x.ratio
  let digits (n : Nat) : Int := (Nat.toDigits 10 n).length
  let guess := digits num - digits den
  let p := gridPoint 1 guess
  if num * p.2 < p.1 * den then guess - 1 else guess

/-- The shortest decimal of a positive number; seventeen digits always read back. -/
def shortest (x : Double) : Decimal :=
  let lead := x.leadingExponent
  let attempt (k : Nat) : Option Decimal :=
    (x.onGrid? (lead - k)).map fun n => ⟨n, lead - k⟩
  ((List.range 17).findSome? attempt).getD ⟨x.mantissa, x.exponent⟩

/-- The same decimal without zeros at the end of its digits. -/
def Decimal.trimmed (d : Decimal) : List Char × Int :=
  let zeros := ((Nat.toDigits 10 d.digits).reverse.takeWhile (· == '0')).length
  ((Nat.toDigits 10 d.digits).take ((Nat.toDigits 10 d.digits).length - zeros),
    d.exponent + zeros)

/--
Positional from `0.00001` up to `10 ^ 16`, with at least one digit after the point; scientific
otherwise, with a signed exponent.
-/
def magnitudeText (x : Double) : List Char :=
  if x.isZero then "0.0".toList
  else
    let (digits, e) := x.shortest.trimmed
    let point : Int := digits.length + e
    if 0 < point ∧ point ≤ 16 then
      if e ≥ 0 then digits ++ List.replicate e.toNat '0' ++ ".0".toList
      else digits.take point.toNat ++ '.' :: digits.drop point.toNat
    else if -5 < point ∧ point ≤ 0 then
      "0.".toList ++ List.replicate (-point).toNat '0' ++ digits
    else
      let sign := if point > 0 then '+' else '-'
      let fraction := if digits.length = 1 then [] else '.' :: digits.drop 1
      digits.take 1 ++ fraction ++ 'e' :: sign :: Nat.toDigits 10 (point - 1).natAbs

def text (x : Double) : String :=
  String.ofList (if x.negative then '-' :: x.magnitudeText else x.magnitudeText)

end Jaxrs.Double
