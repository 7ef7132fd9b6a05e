import Jaxrs.Identifier
import Jaxrs.Literal
import Jaxrs.Proofs.Identifier
import Mathlib.Data.List.Forall2

/-!
Tokens of Java source. `tokens?` reads a text character by character: blanks and comments come to
nothing, a string literal ends at its first quote without a backslash, and every closing angle
bracket is a token of its own, as it is inside a type. A text that no token of the reader starts, or
that ends inside a literal or a comment, has no tokens.

`Reads` and `ReadsApart` say what a stretch of text comes to wherever it stands, and the laws below
put the tokens of a text together from those of its parts.
-/

set_option autoImplicit false

namespace Jaxrs.Java

/-- Keywords are words, and a literal is kept as the text that it stands for. -/
inductive Token where
  | word (s : String)
  | number (s : String)
  | literal (s : String)
  | symbol (c : Char)
  deriving DecidableEq, Repr

/-- What the reader is in the middle of, with the characters read so far, last one first. -/
inductive Mode where
  | between
  | word (seen : List Char)
  | number (seen : List Char)
  | literal (seen : List Char)
  /-- After a backslash in a literal. -/
  | escape (seen : List Char)
  | slash
  | comment
  /-- After an asterisk in a comment. -/
  | star
  deriving DecidableEq

def isBlank (c : Char) : Bool :=
  c == ' ' || c == '\t' || c == '\n' || c == '\r' || c == '\x0c'

def symbols : List Char :=
  ['(', ')', '\x7b', '\x7d', '[', ']', ';', ',', '.', '@', '=', '<', '>', '-']

def isSymbol (c : Char) : Bool :=
  symbols.contains c

/-- The character that a letter after a backslash stands for. -/
def unescape? : Char → Option Char
  | 'b' => some '\x08'
  | 't' => some '\t'
  | 'n' => some '\n'
  | 'f' => some '\x0c'
  | 'r' => some '\r'
  | 's' => some ' '
  | '"' => some '"'
  | '\'' => some '\''
  | '\\' => some '\\'
  | _ => none

namespace Mode

/-- The first character of a token, of a comment or of the space between them. -/
def start? (c : Char) : Option (List Token × Mode) :=
  if isBlank c then some ([], between)
  else if Identifier.isStart c then some ([], word [c])
  else if c.isDigit then some ([], number [c])
  else if c == '"' then some ([], literal [])
  else if c == '/' then some ([], slash)
  else if isSymbol c then some ([.symbol c], between)
  else none

/-- The tokens that a character completes, and what the reader is in the middle of after it. -/
def step? (m : Mode) (c : Char) : Option (List Token × Mode) :=
  match m with
  | between => start? c
  | word seen =>
    if Identifier.isPart c then some ([], word (c :: seen))
    else (start? c).map fun (ts, next) => (.word (String.ofList seen.reverse) :: ts, next)
  | number seen =>
    if Identifier.isPart c || c == '.' then some ([], number (c :: seen))
    else (start? c).map fun (ts, next) => (.number (String.ofList seen.reverse) :: ts, next)
  | literal seen =>
    if c == '"' then some ([.literal (String.ofList seen.reverse)], between)
    else if c == '\\' then some ([], escape seen)
    else if c == '\n' || c == '\r' then none
    else some ([], literal (c :: seen))
  | escape seen => (unescape? c).map fun d => ([], literal (d :: seen))
  | slash => if c == '*' then some ([], comment) else none
  | comment => some ([], if c == '*' then star else comment)
  | star => some ([], if c == '/' then between else if c == '*' then star else comment)

/-- The last token, if the text may end here. -/
def finish? : Mode → Option (List Token)
  | between => some []
  | word seen => some [.word (String.ofList seen.reverse)]
  | number seen => some [.number (String.ofList seen.reverse)]
  | literal _ => none
  | escape _ => none
  | slash => none
  | comment => none
  | star => none

def read (m : Mode) : List Char → Option (List Token)
  | [] => m.finish?
  | c :: rest => (m.step? c).bind fun (ts, next) => (read next rest).map (ts ++ ·)

end Mode

def tokens? (source : String) : Option (List Token) :=
  Mode.between.read source.toList

/-- The text comes to these tokens wherever it stands between others. -/
def Reads (s : String) (ts : List Token) : Prop :=
  ∀ rest, Mode.between.read (s.toList ++ rest) = (Mode.between.read rest).map (ts ++ ·)

/-- Neither a word nor a number goes on with this text. -/
def Apart (rest : List Char) : Prop :=
  ∀ c ∈ rest.head?, Identifier.isPart c = false ∧ c ≠ '.'

/-- The text comes to these tokens wherever a text follows that its last token does not go on
with. -/
def ReadsApart (s : String) (ts : List Token) : Prop :=
  ∀ rest, Apart rest →
    Mode.between.read (s.toList ++ rest) = (Mode.between.read rest).map (ts ++ ·)

/-- The text starts with a character that no word and no number goes on with. -/
def breaks (s : String) : Bool :=
  s.toList.head?.any fun c ↦ !Identifier.isPart c && c != '.'

section Composition

variable {s t : String} {ts us : List Token}

theorem breaks_append (h : breaks s = true) (t : String) : breaks (s ++ t) = true := by
  rw [breaks, Option.any_eq_true] at h ⊢
  obtain ⟨c, hhead, hc⟩ := h
  refine ⟨c, ?_, hc⟩
  rw [String.toList_append, List.head?_append, hhead]
  rfl

theorem apart_append_of_breaks (h : breaks s = true) (rest : List Char) :
    Apart (s.toList ++ rest) := by
  rw [breaks, Option.any_eq_true] at h
  obtain ⟨c, hhead, hc⟩ := h
  intro d hd
  rw [List.head?_append, hhead] at hd
  obtain rfl : c = d := by simpa using hd
  simpa using hc

theorem Reads.readsApart (h : Reads s ts) : ReadsApart s ts :=
  fun rest _ ↦ h rest

theorem Reads.empty : Reads "" [] := by
  intro rest
  simp

theorem Reads.append (hs : Reads s ts) (ht : Reads t us) : Reads (s ++ t) (ts ++ us) := by
  intro rest
  rw [String.toList_append, List.append_assoc, hs, ht, Option.map_map]
  simp [Function.comp_def]

theorem Reads.append_apart (hs : Reads s ts) (ht : ReadsApart t us) :
    ReadsApart (s ++ t) (ts ++ us) := by
  intro rest hrest
  rw [String.toList_append, List.append_assoc, hs, ht rest hrest, Option.map_map]
  simp [Function.comp_def]

theorem ReadsApart.append (hs : ReadsApart s ts) (ht : Reads t us) (hbreaks : breaks t = true) :
    Reads (s ++ t) (ts ++ us) := by
  intro rest
  rw [String.toList_append, List.append_assoc,
    hs (t.toList ++ rest) (apart_append_of_breaks hbreaks rest), ht, Option.map_map]
  simp [Function.comp_def]

theorem ReadsApart.append_apart (hs : ReadsApart s ts) (ht : ReadsApart t us)
    (hbreaks : breaks t = true) : ReadsApart (s ++ t) (ts ++ us) := by
  intro rest hrest
  rw [String.toList_append, List.append_assoc,
    hs (t.toList ++ rest) (apart_append_of_breaks hbreaks rest), ht rest hrest, Option.map_map]
  simp [Function.comp_def]

theorem Reads.join {α : Type} {text : α → String} {tokens : α → List Token} {items : List α}
    (h : ∀ a ∈ items, Reads (text a) (tokens a)) :
    Reads (String.join (items.map text)) (items.flatMap tokens) := by
  induction items with
  | nil => exact Reads.empty
  | cons a rest ih =>
    have hrest := ih fun b hb ↦ h b (List.mem_cons_of_mem a hb)
    have happend := (h a List.mem_cons_self).append hrest
    simpa using happend

theorem ReadsApart.joinWith {separator : String} {parts : List String}
    {tokens : List (List Token)} (hseparator : Reads separator us)
    (hbreaks : breaks separator = true) (h : List.Forall₂ ReadsApart parts tokens) :
    ReadsApart (Text.joinWith separator parts) (us.intercalate tokens) := by
  induction h with
  | nil => exact Reads.empty.readsApart
  | @cons s ts parts tokens hpart hparts ih =>
    cases hparts with
    | nil => simpa [Text.joinWith] using hpart
    | cons _ _ =>
      have happend := (hpart.append hseparator hbreaks).append_apart ih
      simpa [Text.joinWith] using happend

theorem forall₂_readsApart_map {α : Type} {text : α → String} {tokens : α → List Token}
    {items : List α} (h : ∀ a ∈ items, ReadsApart (text a) (tokens a)) :
    List.Forall₂ ReadsApart (items.map text) (items.map tokens) := by
  rw [List.forall₂_map_left_iff, List.forall₂_map_right_iff, List.forall₂_same]
  exact h

theorem Reads.tokens?_eq (h : Reads s ts) : tokens? s = some ts := by
  have hread := h []
  rw [List.append_nil] at hread
  rw [tokens?, hread]
  simp [Mode.read, Mode.finish?]

end Composition

section Characters

variable {c : Char}

theorem isBlank_eq_false_of_isPart (h : Identifier.isPart c = true) : isBlank c = false := by
  by_contra hblank
  have hcases : (((c = ' ' ∨ c = '\t') ∨ c = '\n') ∨ c = '\r') ∨ c = '\x0c' := by
    simpa only [isBlank, Bool.not_eq_false, Bool.or_eq_true, beq_iff_eq] using hblank
  rcases hcases with (((rfl | rfl) | rfl) | rfl) | rfl <;> exact absurd h (by decide)

theorem Mode.start?_of_isBlank (h : isBlank c = true) : start? c = some ([], between) := by
  rw [start?, if_pos h]

theorem Mode.start?_of_isSymbol (h : isSymbol c = true) :
    start? c = some ([.symbol c], between) := by
  have hall : (symbols.all fun d ↦ start? d == some ([.symbol d], between)) = true := by decide
  exact eq_of_beq (List.all_eq_true.mp hall c (List.contains_iff_mem.mp h))

theorem Mode.start?_of_isStart (h : Identifier.isStart c = true) :
    start? c = some ([], word [c]) := by
  rw [start?, isBlank_eq_false_of_isPart (Identifier.isPart_of_isStart h), if_neg (by simp),
    if_pos h]

theorem Mode.start?_of_isDigit (h : c.isDigit = true) : start? c = some ([], number [c]) := by
  have hpart : Identifier.isPart c = true := by simp [Identifier.isPart, h]
  rw [start?, isBlank_eq_false_of_isPart hpart, Identifier.isStart_eq_false_of_isDigit h,
    if_neg (by simp), if_neg (by simp), if_pos h]

end Characters

end Jaxrs.Java
