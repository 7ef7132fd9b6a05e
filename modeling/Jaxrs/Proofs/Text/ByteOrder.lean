import Mathlib.Data.String.Basic

/-!
Texts in the order of their bytes. Of two characters the encoding of the smaller one has the smaller
byte where the two encodings first differ, and they do differ before either ends
(`precedes_utf8EncodeChar`). So texts that are compared character by character are in the order of
their bytes (`bytes_lt`).
-/

set_option autoImplicit false

namespace Jaxrs.Text

/-- The encoding of a text. -/
def bytes (s : String) : List UInt8 :=
  s.toUTF8.data.toList

theorem bytes_eq_flatMap (s : String) : bytes s = s.toList.flatMap String.utf8EncodeChar := by
  conv_lhs => rw [← String.ofList_toList (s := s)]
  exact List.toList_data_toByteArray

/-- The sequences differ before either ends, and where they first differ the first has the smaller
byte. -/
inductive Precedes : List UInt8 → List UInt8 → Prop where
  | head {a b : UInt8} {x y : List UInt8} (h : a < b) : Precedes (a :: x) (b :: y)
  | tail {a : UInt8} {x y : List UInt8} (h : Precedes x y) : Precedes (a :: x) (a :: y)

/-- What comes after a difference does not matter. -/
theorem Precedes.append_lt_append {x y : List UInt8} (h : Precedes x y) (z w : List UInt8) :
    x ++ z < y ++ w := by
  induction h with
  | head h => exact List.Lex.rel h
  | tail _ ih => exact List.Lex.cons ih

theorem precedes_ofNat_cons {m n : Nat} {x y : List UInt8} (hn : n < 256) (hle : m ≤ n)
    (heq : m = n → Precedes x y) : Precedes (UInt8.ofNat m :: x) (UInt8.ofNat n :: y) := by
  rcases hle.lt_or_eq with hlt | rfl
  · refine Precedes.head (UInt8.lt_iff_toNat_lt.mpr ?_)
    rw [UInt8.toNat_ofNat_of_lt' (hlt.trans hn), UInt8.toNat_ofNat_of_lt' hn]
    exact hlt
  · exact Precedes.tail (heq rfl)

theorem precedes_utf8EncodeChar {c d : Char} (h : c < d) :
    Precedes (String.utf8EncodeChar c) (String.utf8EncodeChar d) := by
  have hlt : c.val.toNat < d.val.toNat := h
  have hbound : d.val.toNat < 0x110000 := by
    rcases d.valid with hd | hd <;> omega
  unfold String.utf8EncodeChar
  generalize c.val.toNat = m at hlt ⊢
  generalize d.val.toNat = n at hlt hbound ⊢
  dsimp only
  -- The lengths do not fall, and a longer encoding starts with a greater byte.
  split_ifs
  all_goals
    first
    | omega
    | repeat refine precedes_ofNat_cons (by omega) (by omega) fun _ ↦ ?_
      omega

theorem flatMap_utf8EncodeChar_lt {a b : List Char} (h : a < b) :
    a.flatMap String.utf8EncodeChar < b.flatMap String.utf8EncodeChar := by
  induction h with
  | @nil c b =>
    obtain ⟨first, rest, hencoded⟩ :=
      List.exists_cons_of_ne_nil (String.utf8EncodeChar_ne_nil (c := c))
    rw [List.flatMap_nil, List.flatMap_cons, hencoded]
    exact List.Lex.nil
  | cons _ ih =>
    rw [List.flatMap_cons, List.flatMap_cons]
    exact List.Lex.append_left _ ih _
  | rel h =>
    rw [List.flatMap_cons, List.flatMap_cons]
    exact (precedes_utf8EncodeChar h).append_lt_append _ _

theorem bytes_lt {s t : String} (h : s < t) : bytes s < bytes t := by
  rw [bytes_eq_flatMap, bytes_eq_flatMap]
  exact flatMap_utf8EncodeChar_lt h

end Jaxrs.Text
