import Jaxrs.Proofs.Java.Reading
import Jaxrs.Proofs.Source.Layout

/-!
Literals of strings and string arrays, read back. A string literal is one token, and an array
initializer is the literals of its elements with commas between them, whatever the elements hold
(`elements?_intercalate`). So both come out as they went in, and both are on one line
(`literals_read_back`).
-/

set_option autoImplicit false

namespace Jaxrs.Java

/-- The string of a text that is one string literal. -/
def readString? (text : String) : Option String :=
  match tokens? text with
  | some [.literal s] => some s
  | _ => none

/-- The elements up to the closing brace; there may be a comma after the last one. -/
def elements? : List Token → Option (List String)
  | [.symbol '\x7d'] => some []
  | [.literal s, .symbol '\x7d'] => some [s]
  | .literal s :: .symbol ',' :: rest => (elements? rest).map (s :: ·)
  | _ => none

/-- The strings of a text that is an array initializer of string literals. -/
def readStrings? (text : String) : Option (List String) :=
  match tokens? text with
  | some (.symbol '\x7b' :: rest) => elements? rest
  | _ => none

theorem readString?_string (s : String) : readString? (Literal.string s) = some s := by
  rw [readString?, (reads_literal s).tokens?_eq]

theorem elements?_intercalate (values : List String) :
    elements? ([Token.symbol ','].intercalate (values.map fun s ↦ [.literal s]) ++
      [.symbol '\x7d']) = some values := by
  induction values with
  | nil => rfl
  | cons s rest ih =>
    cases rest with
    | nil => rfl
    | cons t rest =>
      have hcomma : [Token.symbol ','].intercalate ((s :: t :: rest).map fun s ↦ [.literal s]) =
          .literal s :: .symbol ',' ::
            [Token.symbol ','].intercalate ((t :: rest).map fun s ↦ [.literal s]) := by
        simp
      rw [hcomma, List.cons_append, List.cons_append, elements?, ih, Option.map_some]

theorem readStrings?_stringArray (values : List String) :
    readStrings? (Literal.stringArray values) = some values := by
  rw [readStrings?, (reads_stringArray values).tokens?_eq, arrayTokens]
  exact elements?_intercalate values

theorem string_injective : Function.Injective Literal.string := by
  intro s t h
  have hread := readString?_string s
  rw [h, readString?_string] at hread
  exact (Option.some.inj hread).symm

theorem stringArray_injective : Function.Injective Literal.stringArray := by
  intro values values' h
  have hread := readStrings?_stringArray values
  rw [h, readStrings?_stringArray] at hread
  exact (Option.some.inj hread).symm

/-- Texts and lists of texts are read back from their literals, so that different ones have
different literals, and no literal breaks its line. -/
theorem literals_read_back :
    (∀ s, readString? (Literal.string s) = some s) ∧
    (∀ values, readStrings? (Literal.stringArray values) = some values) ∧
    Function.Injective Literal.string ∧ Function.Injective Literal.stringArray ∧
    (∀ s, Text.Unbroken (Literal.string s)) ∧
    ∀ values, Text.Unbroken (Literal.stringArray values) :=
  ⟨readString?_string, readStrings?_stringArray, string_injective, stringArray_injective,
    Text.compositional_unbroken.literal, Text.compositional_unbroken.stringArray⟩

/-- The separator between two elements may be part of one. -/
example : readStrings? (Literal.stringArray ["a\", \"b", "\\"]) = some ["a\", \"b", "\\"] := by
  decide

end Jaxrs.Java
