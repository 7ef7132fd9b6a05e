import Jaxrs.Document.Json.Numeral
import Jaxrs.Document.Node

/-!
Reading JSON. A text is cut into tokens, and the tokens are put together with a stack of the lists
and records that are still open. Strings with a lone surrogate, numbers out of range and what is
nested too deeply are well-formed but have no value.
-/

set_option autoImplicit false

namespace Jaxrs.Json

open Text

/-- A character of a string, or half of a surrogate pair or a whole character from an escape. -/
inductive Piece where
  | char (c : Char)
  | unit (n : Nat)
  deriving DecidableEq, Repr

namespace Piece

def isHigh (n : Nat) : Bool := 0xD800 ≤ n && n < 0xDC00

def isLow (n : Nat) : Bool := 0xDC00 ≤ n && n < 0xE000

/-- Pairs of surrogates become characters; none if one of them stands alone. -/
def assemble : List Piece → Option (List Char)
  | [] => some []
  | char c :: rest => (assemble rest).map (c :: ·)
  | unit h :: unit l :: rest =>
    if isHigh h then
      if isLow l then
        (assemble rest).map (Char.ofNat (0x10000 + (h - 0xD800) * 0x400 + (l - 0xDC00)) :: ·)
      else none
    else if isLow h then none
    else (assemble (unit l :: rest)).map (Char.ofNat h :: ·)
  | unit n :: rest =>
    if isHigh n || isLow n then none else (assemble rest).map (Char.ofNat n :: ·)

end Piece

inductive Token where
  | openList
  | closeList
  | openRecord
  | closeRecord
  | colon
  | comma
  /-- A string; none if it has no value. -/
  | text (s : Option String)
  | scalar (n : Node)
  deriving Repr

def escape? : Char → Option Char
  | '"' => some '"'
  | '\\' => some '\\'
  | '/' => some '/'
  | 'b' => some '\x08'
  | 'f' => some '\x0c'
  | 'n' => some '\n'
  | 'r' => some '\r'
  | 't' => some '\t'
  | _ => none

/-- A string after its opening quote, and what follows the closing one. -/
def stringBody? : List Char → Option (List Piece × List Char)
  | [] => none
  | '"' :: rest => some ([], rest)
  | '\\' :: 'u' :: a :: b :: c :: d :: rest => do
    let n ← radixValue? 16 [a, b, c, d]
    let (pieces, rest) ← stringBody? rest
    some (.unit n :: pieces, rest)
  | '\\' :: e :: rest => do
    let c ← escape? e
    let (pieces, rest) ← stringBody? rest
    some (.char c :: pieces, rest)
  | c :: rest =>
    if c < ' ' ∨ c = '\\' then none
    else do
      let (pieces, rest) ← stringBody? rest
      some (.char c :: pieces, rest)

theorem length_stringBody?_le {s rest : List Char} {pieces : List Piece}
    (h : stringBody? s = some (pieces, rest)) : rest.length ≤ s.length := by
  fun_induction stringBody? s generalizing pieces rest with
  | case1 => simp at h
  | case2 s =>
    simp only [Option.some.injEq, Prod.mk.injEq] at h
    obtain ⟨-, rfl⟩ := h
    simp
  | case3 a b c d s ih =>
    simp only [Option.bind_eq_bind, Option.bind_eq_some_iff, Prod.exists, Option.some.injEq,
      Prod.mk.injEq] at h
    obtain ⟨_, _, _, _, hs, -, rfl⟩ := h
    have := ih hs
    simp only [List.length_cons]; omega
  | case4 e s _ ih =>
    simp only [Option.bind_eq_bind, Option.bind_eq_some_iff, Prod.exists, Option.some.injEq,
      Prod.mk.injEq] at h
    obtain ⟨_, _, _, _, hs, -, rfl⟩ := h
    have := ih hs
    simp only [List.length_cons]; omega
  | case5 => simp at h
  | case6 c s _ _ _ _ ih =>
    simp only [Option.bind_eq_bind, Option.bind_eq_some_iff, Prod.exists, Option.some.injEq,
      Prod.mk.injEq] at h
    obtain ⟨_, _, hs, -, rfl⟩ := h
    have := ih hs
    simp only [List.length_cons]; omega

def isBlank (c : Char) : Bool :=
  c == ' ' || c == '\n' || c == '\t' || c == '\r'

def punctuation? : Char → Option Token
  | '[' => some .openList
  | ']' => some .closeList
  | '\x7b' => some .openRecord
  | '\x7d' => some .closeRecord
  | ':' => some .colon
  | ',' => some .comma
  | _ => none

def word? : List Char → Option (Node × List Char)
  | 't' :: 'r' :: 'u' :: 'e' :: rest => some (.bool true, rest)
  | 'f' :: 'a' :: 'l' :: 's' :: 'e' :: rest => some (.bool false, rest)
  | 'n' :: 'u' :: 'l' :: 'l' :: rest => some (.null, rest)
  | _ => none

theorem length_word?_lt {s rest : List Char} {n : Node} (h : word? s = some (n, rest)) :
    rest.length < s.length := by
  unfold word? at h
  split at h <;> simp only [Option.some.injEq, Prod.mk.injEq, reduceCtorEq] at h <;>
    (obtain ⟨-, rfl⟩ := h; simp only [List.length_cons]; omega)

def Numeral.node (n : Numeral) : Node :=
  match n.value? with
  | some v => .number v
  | none => .unreadable

def tokens? : List Char → Option (List Token)
  | [] => some []
  | c :: rest =>
    if isBlank c then tokens? rest
    else if c = '"' then
      match _h : stringBody? rest with
      | none => none
      | some (pieces, after) =>
        (tokens? after).map (.text ((Piece.assemble pieces).map String.ofList) :: ·)
    else match punctuation? c with
      | some t => (tokens? rest).map (t :: ·)
      | none =>
        match _h : word? (c :: rest) with
        | some (n, after) => (tokens? after).map (.scalar n :: ·)
        | none =>
          match _h : numeral? (c :: rest) with
          | some (n, after) => (tokens? after).map (.scalar n.node :: ·)
          | none => none
termination_by s => s.length
decreasing_by
  · simp
  · have := length_stringBody?_le _h; simp only [List.length_cons]; omega
  · simp
  · exact length_word?_lt _h
  · exact length_numeral?_lt _h

/-- A list or a record that is still open, with what it holds so far, last first. -/
inductive Frame where
  | list (items : List Node)
  | record (fields : List (Key × Node)) (key : Key)
  deriving Repr

/-- What may come next. A bracket may close what has just been opened. -/
inductive Expected where
  | value (mayClose : Bool)
  | key (mayClose : Bool)
  | colon (fields : List (Key × Node)) (key : Key)
  | after (value : Node)
  deriving Repr

/-- Lists and records inside this many others have no value. -/
def depthLimit : Nat := 127

/-- A completed list or record, `outer` of them being still open around it. -/
def closed (outer : List Frame) (n : Node) : Node :=
  if outer.length < depthLimit then n else .unreadable

/-- The value that the tokens stand for, given what is open and what may come next. -/
def assemble (stack : List Frame) (expected : Expected) : List Token → Option Node
  | [] =>
    match expected, stack with
    | .after n, [] => some n
    | _, _ => none
  | token :: rest =>
    match expected, token, stack with
    | .value _, .scalar n, stack => assemble stack (.after n) rest
    | .value _, .text s, stack =>
      assemble stack (.after (s.elim .unreadable .text)) rest
    | .value _, .openList, stack => assemble (.list [] :: stack) (.value true) rest
    | .value _, .openRecord, stack => assemble (.record [] .compound :: stack) (.key true) rest
    | .value true, .closeList, .list _ :: outer =>
      assemble outer (.after (closed outer (.list []))) rest
    | .key _, .text (some s), .record fields _ :: outer =>
      assemble outer (.colon fields (.text s)) rest
    | .key true, .closeRecord, .record _ _ :: outer =>
      assemble outer (.after (closed outer (.record []))) rest
    | .colon fields key, .colon, stack => assemble (.record fields key :: stack) (.value false) rest
    | .after n, .comma, .list items :: outer =>
      assemble (.list (n :: items) :: outer) (.value false) rest
    | .after n, .closeList, .list items :: outer =>
      assemble outer (.after (closed outer (.list (n :: items).reverse))) rest
    | .after n, .comma, .record fields key :: outer =>
      assemble (.record ((key, n) :: fields) .compound :: outer) (.key false) rest
    | .after n, .closeRecord, .record fields key :: outer =>
      assemble outer (.after (closed outer (.record ((key, n) :: fields).reverse))) rest
    | _, _, _ => none

/-- The single value of a JSON text. -/
def read? (text : String) : Option Node := do
  assemble [] (.value false) (← tokens? text.toList)

end Jaxrs.Json
