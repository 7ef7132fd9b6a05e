/-!
Values of digit sequences, and the part of a text that a class of characters takes.
-/

set_option autoImplicit false

namespace Jaxrs.Text

theorem length_dropWhile_le (p : Char → Bool) (s : List Char) :
    (s.dropWhile p).length ≤ s.length := by
  induction s with
  | nil => simp
  | cons c rest ih =>
    rw [List.dropWhile_cons]
    split
    · simp only [List.length_cons]; omega
    · simp

def digitValue (c : Char) : Nat :=
  c.toNat - '0'.toNat

def decimalValue (digits : List Char) : Nat :=
  digits.foldl (fun n c => 10 * n + digitValue c) 0

/-- The value of a hexadecimal digit. -/
def hexDigit? (c : Char) : Option Nat :=
  if c.isDigit then some (digitValue c)
  else if 'a' ≤ c ∧ c ≤ 'f' then some (c.toNat - 'a'.toNat + 10)
  else if 'A' ≤ c ∧ c ≤ 'F' then some (c.toNat - 'A'.toNat + 10)
  else none

/-- The value of digits below `radix`; none if there are none or another character is there. -/
def radixValue? (radix : Nat) : List Char → Option Nat
  | [] => none
  | c :: rest => (c :: rest).foldlM (fun n c => do
      let d ← hexDigit? c
      if d < radix then some (radix * n + d) else none) 0

end Jaxrs.Text
