import Jaxrs.Proofs.Java.Token

/-!
What the parts of a source text are read as. A text of blanks and marks comes to its marks, a
qualified name to its words with dots between them (`readsApart_qualified`), a numeral to a number,
and a quoted string to a literal of the string itself, whatever characters it holds
(`reads_literal`).
-/

set_option autoImplicit false

namespace Jaxrs.Java

namespace Mode

variable {m next : Mode} {c : Char} {ts : List Token} {rest : List Char}

theorem read_cons (h : m.step? c = some (ts, next)) :
    m.read (c :: rest) = (next.read rest).map (ts ++ ·) := by
  rw [read, h]
  rfl

theorem read_cons_silent (h : m.step? c = some ([], next)) :
    m.read (c :: rest) = next.read rest := by
  rw [read_cons h]
  simp

end Mode

/-! ### Blanks and marks -/

private theorem read_marks {s : List Char} (h : ∀ c ∈ s, isBlank c = true ∨ isSymbol c = true)
    (rest : List Char) : Mode.between.read (s ++ rest) =
      (Mode.between.read rest).map ((s.filter isSymbol).map Token.symbol ++ ·) := by
  induction s with
  | nil => simp
  | cons c s ih =>
    have hs := ih fun d hd ↦ h d (List.mem_cons_of_mem c hd)
    by_cases hsymbol : isSymbol c = true
    · have hstep : Mode.between.step? c = some ([.symbol c], .between) :=
        Mode.start?_of_isSymbol hsymbol
      rw [List.cons_append, Mode.read_cons hstep, hs, Option.map_map,
        List.filter_cons_of_pos hsymbol]
      rfl
    · have hblank : isBlank c = true := (h c List.mem_cons_self).resolve_right hsymbol
      have hstep : Mode.between.step? c = some ([], .between) := Mode.start?_of_isBlank hblank
      rw [List.cons_append, Mode.read_cons_silent hstep, hs, List.filter_cons_of_neg hsymbol]

/-- The marks of a text that holds nothing else but blanks. -/
theorem reads_marks {s : String} {ts : List Token}
    (h : (s.toList.all fun c ↦ isBlank c || isSymbol c) = true)
    (hts : (s.toList.filter isSymbol).map Token.symbol = ts) : Reads s ts := by
  intro rest
  rw [← hts]
  refine read_marks (fun c hc ↦ ?_) rest
  simpa using List.all_eq_true.mp h c hc

theorem reads_blanks {s : String} (h : ∀ c ∈ s.toList, isBlank c = true) : Reads s [] := by
  have hsymbol : ∀ c, isBlank c = true → isSymbol c = false := by
    intro c hc
    by_contra hsymbol
    have hall : (symbols.all (! isBlank ·)) = true := by decide
    have hmem : c ∈ symbols := List.contains_iff_mem.mp (Bool.not_eq_false _ ▸ hsymbol)
    have hblank := List.all_eq_true.mp hall c hmem
    rw [hc] at hblank
    exact Bool.noConfusion hblank
  refine reads_marks (List.all_eq_true.mpr fun c hc ↦ ?_) ?_
  · rw [h c hc, Bool.true_or]
  · rw [List.filter_eq_nil_iff.mpr fun c hc ↦ by simp [hsymbol c (h c hc)]]
    rfl

/-! ### Words, names and numbers -/

private theorem read_word_append {s : List Char} (h : ∀ c ∈ s, Identifier.isPart c = true)
    (seen rest : List Char) :
    (Mode.word seen).read (s ++ rest) = (Mode.word (s.reverse ++ seen)).read rest := by
  induction s generalizing seen with
  | nil => rfl
  | cons c s ih =>
    have hstep : (Mode.word seen).step? c = some ([], .word (c :: seen)) := by
      rw [Mode.step?, if_pos (h c List.mem_cons_self)]
    rw [List.cons_append, Mode.read_cons_silent hstep,
      ih fun d hd ↦ h d (List.mem_cons_of_mem c hd)]
    simp

private theorem read_word_end {seen rest : List Char}
    (hrest : ∀ c ∈ rest.head?, Identifier.isPart c = false) :
    (Mode.word seen).read rest =
      (Mode.between.read rest).map ([Token.word (String.ofList seen.reverse)] ++ ·) := by
  cases rest with
  | nil => rfl
  | cons c rest =>
    have hc : Identifier.isPart c = false := hrest c rfl
    simp only [Mode.read, Mode.step?, hc]
    cases Mode.start? c with
    | none => rfl
    | some step => simp [Function.comp_def]

/-- A word ends at the first character that no identifier goes on with. -/
theorem read_word {s : String} (h : Identifier.isShaped s.toList = true) {rest : List Char}
    (hrest : ∀ c ∈ rest.head?, Identifier.isPart c = false) :
    Mode.between.read (s.toList ++ rest) = (Mode.between.read rest).map ([.word s] ++ ·) := by
  cases hs : s.toList with
  | nil => simp [hs, Identifier.isShaped] at h
  | cons c chars =>
    have hparts := Identifier.isPart_of_isShaped h
    rw [hs] at h hparts
    have hstart : Mode.between.step? c = some ([], .word [c]) :=
      Mode.start?_of_isStart (Bool.and_eq_true_iff.mp h).1
    have hword : String.ofList (chars.reverse ++ [c]).reverse = s := by
      simp [← hs]
    rw [List.cons_append, Mode.read_cons_silent hstart,
      read_word_append (fun d hd ↦ hparts d (List.mem_cons_of_mem c hd)), read_word_end hrest,
      hword]

theorem readsApart_word {s : String} (h : Identifier.isShaped s.toList = true) :
    ReadsApart s [.word s] :=
  fun _ hrest ↦ read_word h fun c hc ↦ (hrest c hc).1

theorem readsApart_identifier {s : String} (h : isIdentifier s = true) : ReadsApart s [.word s] :=
  readsApart_word (isIdentifier_iff.mp h).1

/-- The words of a qualified name, with dots between them. -/
def nameTokens (name : String) : List Token :=
  [Token.symbol '.'].intercalate ((Text.segments '.' name).map fun w ↦ [.word w])

private theorem readsApart_words {ws : List String}
    (h : ∀ w ∈ ws, Identifier.isShaped w.toList = true) :
    ReadsApart (Text.joinWith "." ws) ([.symbol '.'].intercalate (ws.map fun w ↦ [.word w])) := by
  induction ws with
  | nil => exact Reads.empty.readsApart
  | cons w rest ih =>
    have hw := h w List.mem_cons_self
    have hrest := ih fun v hv ↦ h v (List.mem_cons_of_mem w hv)
    cases rest with
    | nil => simpa [Text.joinWith] using readsApart_word hw
    | cons v rest =>
      have hdot : Reads (w ++ ".") [.word w, .symbol '.'] := by
        intro after
        have hstep : Mode.between.step? '.' = some ([.symbol '.'], .between) := by decide
        have hend : ∀ c ∈ ('.' :: after).head?, Identifier.isPart c = false := by
          intro c hc
          obtain rfl : '.' = c := by simpa using hc
          decide
        have hchars : (w ++ ".").toList ++ after = w.toList ++ '.' :: after := by simp
        rw [hchars, read_word hw hend, Mode.read_cons hstep, Option.map_map]
        rfl
      have happend := hdot.append_apart hrest
      simpa [Text.joinWith] using happend

/-- A qualified name comes to its words with dots between them. -/
theorem readsApart_qualified {name : String} (h : isQualifiedName name = true) :
    ReadsApart name (nameTokens name) := by
  have hwords := readsApart_words fun w hw ↦ (isIdentifier_iff.mp (isQualifiedName_iff.mp h w hw)).1
  have hname : Text.joinWith "." (Text.segments '.' name) = name := Text.joinWith_segments '.' name
  rwa [hname] at hwords

private theorem read_number_append {s : List Char} (h : ∀ c ∈ s, c.isDigit = true)
    (seen rest : List Char) :
    (Mode.number seen).read (s ++ rest) = (Mode.number (s.reverse ++ seen)).read rest := by
  induction s generalizing seen with
  | nil => rfl
  | cons c s ih =>
    have hpart : Identifier.isPart c = true := by
      simp [Identifier.isPart, h c List.mem_cons_self]
    have hstep : (Mode.number seen).step? c = some ([], .number (c :: seen)) := by
      simp [Mode.step?, hpart]
    rw [List.cons_append, Mode.read_cons_silent hstep,
      ih fun d hd ↦ h d (List.mem_cons_of_mem c hd)]
    simp

private theorem read_number_end {seen rest : List Char} (hrest : Apart rest) :
    (Mode.number seen).read rest =
      (Mode.between.read rest).map ([Token.number (String.ofList seen.reverse)] ++ ·) := by
  cases rest with
  | nil => rfl
  | cons c rest =>
    obtain ⟨hpart, hdot⟩ := hrest c rfl
    simp only [Mode.read, Mode.step?, hpart, beq_eq_false_iff_ne.mpr hdot, Bool.or_false]
    cases Mode.start? c with
    | none => rfl
    | some step => simp [Function.comp_def]

/-- The decimal numeral of a natural number. -/
theorem readsApart_nat (n : Nat) : ReadsApart (toString n) [.number (toString n)] := by
  have hdigits : ∀ c ∈ (toString n).toList, c.isDigit = true := by
    intro c hc
    have hmem : c ∈ Nat.toDigits 10 n := by simpa using hc
    exact Nat.isDigit_of_mem_toDigits (by decide) (by decide) hmem
  intro rest hrest
  cases hs : (toString n).toList with
  | nil => simp at hs
  | cons c chars =>
    rw [hs] at hdigits
    have hstart : Mode.between.step? c = some ([], .number [c]) :=
      Mode.start?_of_isDigit (hdigits c List.mem_cons_self)
    have hnumber : String.ofList (chars.reverse ++ [c]).reverse = toString n := by
      rw [List.reverse_append, List.reverse_reverse, List.reverse_singleton, List.singleton_append,
        ← hs, String.ofList_toList]
    rw [List.cons_append, Mode.read_cons_silent hstart,
      read_number_append (fun d hd ↦ hdigits d (List.mem_cons_of_mem c hd)), read_number_end hrest,
      hnumber]

/-- A minus is a mark of its own. -/
def intTokens : Int → List Token
  | .ofNat n => [.number (toString n)]
  | .negSucc n => [.symbol '-', .number (toString (n + 1))]

theorem readsApart_int (n : Int) : ReadsApart (toString n) (intTokens n) := by
  cases n with
  | ofNat n => exact readsApart_nat n
  | negSucc n =>
    have hminus : Reads "-" [.symbol '-'] := reads_marks (by decide) (by decide)
    exact hminus.append_apart (readsApart_nat (n + 1))

/-! ### String literals -/

private theorem escape_cases (c : Char) :
    (Literal.escape c = [c] ∧ c ≠ '"' ∧ c ≠ '\\' ∧ c ≠ '\n' ∧ c ≠ '\r') ∨
      ∃ d, Literal.escape c = ['\\', d] ∧ unescape? d = some c := by
  unfold Literal.escape
  split
  · exact Or.inr ⟨'"', rfl, rfl⟩
  · exact Or.inr ⟨'\\', rfl, rfl⟩
  · exact Or.inr ⟨'n', rfl, rfl⟩
  · exact Or.inr ⟨'r', rfl, rfl⟩
  · exact Or.inr ⟨'t', rfl, rfl⟩
  · exact Or.inl ⟨rfl, by assumption, by assumption, by assumption, by assumption⟩

private theorem read_escaped (s seen rest : List Char) :
    (Mode.literal seen).read (s.flatMap Literal.escape ++ rest) =
      (Mode.literal (s.reverse ++ seen)).read rest := by
  induction s generalizing seen with
  | nil => rfl
  | cons c s ih =>
    have hc (after : List Char) : (Mode.literal seen).read (Literal.escape c ++ after) =
        (Mode.literal (c :: seen)).read after := by
      rcases escape_cases c with ⟨hescape, hquote, hback, hline, hreturn⟩ | ⟨d, hescape, hd⟩
      · have hstep : (Mode.literal seen).step? c = some ([], .literal (c :: seen)) := by
          simp [Mode.step?, hquote, hback, hline, hreturn]
        rw [hescape, List.singleton_append, Mode.read_cons_silent hstep]
      · have hback : (Mode.literal seen).step? '\\' = some ([], .escape seen) := rfl
        have hstep : (Mode.escape seen).step? d = some ([], .literal (c :: seen)) := by
          rw [Mode.step?, hd]
          rfl
        rw [hescape, List.cons_append, List.singleton_append, Mode.read_cons_silent hback,
          Mode.read_cons_silent hstep]
    rw [List.flatMap_cons, List.append_assoc, hc, ih, List.reverse_cons, List.append_assoc]
    rfl

/-- A quoted string comes to a literal of the string itself, whatever characters it holds. -/
theorem reads_literal (s : String) : Reads (Literal.string s) [.literal s] := by
  intro rest
  have hopen : Mode.between.step? '"' = some ([], .literal []) := rfl
  have hclose (seen : List Char) : (Mode.literal seen).step? '"' =
      some ([.literal (String.ofList seen.reverse)], .between) := rfl
  rw [Literal.string, String.toList_ofList, Literal.quote, List.cons_append, List.cons_append,
    List.append_assoc, Mode.read_cons_silent hopen, read_escaped, List.singleton_append,
    Mode.read_cons (hclose _)]
  simp

/-- Braces around the literals of the strings. -/
def arrayTokens (values : List String) : List Token :=
  .symbol '\x7b' ::
    ([.symbol ','].intercalate (values.map fun s ↦ [.literal s]) ++ [.symbol '\x7d'])

theorem reads_stringArray (values : List String) :
    Reads (Literal.stringArray values) (arrayTokens values) := by
  have hopen : Reads "\x7b" [.symbol '\x7b'] := reads_marks (by decide) (by decide)
  have hcomma : Reads ", " [.symbol ','] := reads_marks (by decide) (by decide)
  have hclose : Reads "\x7d" [.symbol '\x7d'] := reads_marks (by decide) (by decide)
  have hvalues : ReadsApart (Text.joinWith ", " (values.map Literal.string))
      ([.symbol ','].intercalate (values.map fun s ↦ [.literal s])) :=
    ReadsApart.joinWith hcomma (by decide)
      (forall₂_readsApart_map fun s _ ↦ (reads_literal s).readsApart)
  exact (hopen.append_apart hvalues).append hclose (by decide)

end Jaxrs.Java
