import Jaxrs.Document.Node
import Jaxrs.Text.Digits

/-!
Unquoted scalars. Where nothing in particular is expected, an unquoted scalar is null, a truth
value or a number if it is written like one, and otherwise a text.
-/

set_option autoImplicit false

namespace Jaxrs.Plain

open Text

/-- Nothing, or a word for it. -/
def isNull (s : String) : Bool :=
  ["", "null", "Null", "NULL", "~"].contains s

def bool? (s : String) : Option Bool :=
  if ["true", "True", "TRUE"].contains s then some true
  else if ["false", "False", "FALSE"].contains s then some false
  else none

def isSign (c : Char) : Bool :=
  c == '+' || c == '-'

/-- Digits after a leading zero, as in `007`, are not a number. -/
def hasIdleZero (s : List Char) : Bool :=
  let unsigned := match s with
    | c :: rest => if isSign c then rest else c :: rest
    | [] => []
  match unsigned with
  | '0' :: c :: rest => (c :: rest).all Char.isDigit
  | _ => false

def stripPlus : List Char → List Char
  | '+' :: rest => rest
  | s => s

/-- A magnitude in the radix that its first two characters name, or in decimal. -/
def magnitude? : List Char → Option Nat
  | '0' :: 'x' :: rest => radixValue? 16 rest
  | '0' :: 'o' :: rest => radixValue? 8 rest
  | '0' :: 'b' :: rest => radixValue? 2 rest
  | s => if hasIdleZero s then none else radixValue? 10 s

def natural? (s : String) : Option Nat :=
  magnitude? (stripPlus s.toList)

def negative? (s : String) : Option Nat :=
  match s.toList with
  | '-' :: rest => magnitude? rest
  | _ => none

/-- Whole and fractional digits, of which there is at least one, and an exponent. -/
def decimal? (negative : Bool) (s : List Char) : Option Double := do
  let whole := s.takeWhile Char.isDigit
  let (places, rest) := match s.dropWhile Char.isDigit with
    | '.' :: rest => (rest.takeWhile Char.isDigit, rest.dropWhile Char.isDigit)
    | rest => ([], rest)
  if whole ++ places = [] then none
  let exponent ← match rest with
    | [] => some (0 : Int)
    | e :: rest =>
      if e = 'e' ∨ e = 'E' then
        match rest with
        | '-' :: digits => (radixValue? 10 digits).map fun n => -(n : Int)
        | '+' :: digits => (radixValue? 10 digits).map fun n => (n : Int)
        | digits => (radixValue? 10 digits).map fun n => (n : Int)
      else none
  Double.ofDecimal negative (decimalValue (whole ++ places)) (exponent - places.length)

def real? (s : String) : Option Number :=
  if [".inf", ".Inf", ".INF", "+.inf", "+.Inf", "+.INF", "-.inf", "-.Inf", "-.INF",
      ".nan", ".NaN", ".NAN"].contains s then some .nonFinite
  else if hasIdleZero s.toList then none
  else
    match s.toList with
    | '-' :: rest => (decimal? true rest).map .double
    | '+' :: rest => (decimal? false rest).map .double
    | rest => (decimal? false rest).map .double

/-- Integers that need more than 64 bits and at most 128 have no value. -/
def resolve (s : String) : Node :=
  if isNull s then .null
  else match bool? s with
    | some b => .bool b
    | none =>
      match natural? s, negative? s with
      | some n, _ =>
        if n < UInt64.size then .number (.integer n)
        else if n < 1 <<< 128 then .unreadable
        else other s
      | none, some n =>
        if n ≤ 1 <<< 63 then .number (.integer (-n))
        else if n ≤ 1 <<< 127 then .unreadable
        else other s
      | none, none => other s
where
  other (s : String) : Node :=
    match real? s with
    | some x => .number x
    | none => .text s

end Jaxrs.Plain

namespace Jaxrs.Node

mutual

/--
The tree in which every unquoted scalar stands for what it is written like, and every list can
stand for the fields of a record.
-/
def resolved : Node → Node
  | plain s => Plain.resolve s
  | list items => list (resolvedList items)
  | sequence items => list (resolvedList items)
  | record fields => record (resolvedFields fields)
  | null => null
  | bool b => bool b
  | number n => number n
  | text s => text s
  | unreadable => unreadable

def resolvedList : List Node → List Node
  | [] => []
  | n :: rest => resolved n :: resolvedList rest

def resolvedFields : List (Key × Node) → List (Key × Node)
  | [] => []
  | (k, n) :: rest => (k, resolved n) :: resolvedFields rest

end

end Jaxrs.Node
