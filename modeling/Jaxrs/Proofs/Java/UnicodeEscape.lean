import Jaxrs.Proofs.Java.Interface
import Jaxrs.Proofs.Source.Composition
import Mathlib.Algebra.Group.Nat.Even
import Mathlib.Data.List.Induction

/-!
Unicode escapes in source files. Java translates them before it looks for comments and literals, and
what makes one is a backslash with a `u` behind it and an even number of backslashes in front of it.
The scanner `escapesFrom` needs nothing but the parity of the backslashes just read, and it starts
anew at every line (`escapes_text`).

A string literal doubles the backslashes of its text, so that none is left over (`scan_escape`). A
documentation comment leaves them as they are: it has an escape exactly if its text has one
(`any_escapes_comment`). Whatever else is in an interface, the escapes of its source file are those
of its documentation (`Interface.hasUnicodeEscape_render_iff`).
-/

set_option autoImplicit false

namespace Jaxrs.Java

/-- How many backslashes the text ends with. -/
def backslashes (s : List Char) : Nat :=
  (s.reverse.takeWhile (· == '\\')).length

/-- A backslash with an even number of others before it and a `u` after it. -/
def HasUnicodeEscape (s : List Char) : Prop :=
  ∃ before after, s = before ++ '\\' :: 'u' :: after ∧ Even (backslashes before)

/-! ### Scanning -/

/-- The parity of the backslashes up to a character, from that before it. -/
def nextOdd (odd : Bool) (c : Char) : Bool :=
  c == '\\' && !odd

def oddAfter (odd : Bool) (s : List Char) : Bool :=
  s.foldl nextOdd odd

def escapesFrom (odd : Bool) : List Char → Bool
  | [] => false
  | c :: rest => odd && c == 'u' || escapesFrom (nextOdd odd c) rest

section Scanning

variable {odd : Bool} {c : Char} {s t : List Char}

@[simp] theorem oddAfter_append : oddAfter odd (s ++ t) = oddAfter (oddAfter odd s) t :=
  List.foldl_append

theorem escapesFrom_append :
    escapesFrom odd (s ++ t) = (escapesFrom odd s || escapesFrom (oddAfter odd s) t) := by
  induction s generalizing odd with
  | nil => rfl
  | cons c s ih =>
    rw [List.cons_append, escapesFrom, ih, escapesFrom, Bool.or_assoc]
    rfl

theorem backslashes_concat :
    backslashes (s ++ [c]) = if c = '\\' then backslashes s + 1 else 0 := by
  rw [backslashes, List.reverse_concat, List.takeWhile_cons]
  by_cases hc : c = '\\'
  · simp [hc, backslashes]
  · simp [hc]

/-- The induction is on the text without its last character. -/
theorem oddAfter_eq_true_iff : oddAfter false s = true ↔ ¬ Even (backslashes s) := by
  induction s using List.reverseRecOn with
  | nil => simp [oddAfter, backslashes]
  | append_singleton s c ih =>
    have hnext : oddAfter (oddAfter false s) [c] = nextOdd (oddAfter false s) c := rfl
    rw [oddAfter_append, backslashes_concat, hnext, nextOdd]
    by_cases hc : c = '\\'
    · simp [hc, Nat.even_add_one, ← ih]
    · simp [hc]

theorem escapesFrom_eq_true_iff : escapesFrom odd s = true ↔
    ∃ before after, s = before ++ 'u' :: after ∧ oddAfter odd before = true := by
  induction s generalizing odd with
  | nil => simp [escapesFrom]
  | cons c s ih =>
    rw [escapesFrom, Bool.or_eq_true, ih, Bool.and_eq_true, beq_iff_eq]
    constructor
    · rintro (⟨hodd, rfl⟩ | ⟨before, after, rfl, hbefore⟩)
      · exact ⟨[], s, rfl, hodd⟩
      · exact ⟨c :: before, after, rfl, hbefore⟩
    · rintro ⟨before, after, heq, hbefore⟩
      cases before with
      | nil =>
        obtain ⟨rfl, rfl⟩ := List.cons.inj heq
        exact Or.inl ⟨hbefore, rfl⟩
      | cons d before =>
        obtain ⟨rfl, rfl⟩ := List.cons.inj heq
        exact Or.inr ⟨before, after, rfl, hbefore⟩

theorem hasUnicodeEscape_iff : HasUnicodeEscape s ↔ escapesFrom false s = true := by
  rw [escapesFrom_eq_true_iff]
  constructor
  · rintro ⟨before, after, rfl, heven⟩
    refine ⟨before ++ ['\\'], after, by simp, ?_⟩
    rw [oddAfter_eq_true_iff, backslashes_concat, if_pos rfl, Nat.even_add_one]
    exact not_not_intro heven
  · rintro ⟨before, after, rfl, hbefore⟩
    rw [oddAfter_eq_true_iff] at hbefore
    cases before using List.reverseRecOn with
    | nil => exact absurd (by decide) hbefore
    | append_singleton before c =>
      rw [backslashes_concat] at hbefore
      split at hbefore
      · rename_i hc
        rw [Nat.even_add_one, not_not] at hbefore
        exact ⟨before, after, by simp [hc], hbefore⟩
      · exact absurd (by decide) hbefore

instance : Decidable (HasUnicodeEscape s) :=
  decidable_of_iff _ hasUnicodeEscape_iff.symm

/-- A text without a backslash is passed over, and so is what follows a backslash no more. -/
theorem scan_of_not_mem (h : '\\' ∉ s) :
    escapesFrom false s = false ∧ oddAfter false s = false := by
  induction s with
  | nil => exact ⟨rfl, rfl⟩
  | cons c s ih =>
    rw [List.mem_cons, not_or] at h
    have hnext : nextOdd false c = false := by
      simp [nextOdd, Ne.symm h.1]
    obtain ⟨hescapes, hodd⟩ := ih h.2
    rw [escapesFrom, hnext, hescapes, oddAfter, List.foldl_cons, hnext]
    exact ⟨by simp, hodd⟩

end Scanning

/-! ### Texts without escapes -/

/-- The text has no escape, nor a part of one at its end. -/
def Plain (s : String) : Prop :=
  escapesFrom false s.toList = false ∧ oddAfter false s.toList = false

theorem plain_of_not_mem {s : String} (h : '\\' ∉ s.toList) : Plain s :=
  scan_of_not_mem h

theorem Plain.append {s t : String} (hs : Plain s) (ht : Plain t) : Plain (s ++ t) := by
  rw [Plain, String.toList_append, escapesFrom_append, oddAfter_append, hs.1, hs.2]
  exact ht

/-- A backslash of the text comes with a second one, and every other one with a quote or with a
letter that is no `u`. -/
theorem scan_escape (c : Char) : escapesFrom false (Literal.escape c) = false ∧
    oddAfter false (Literal.escape c) = false := by
  unfold Literal.escape
  split
  · decide
  · decide
  · decide
  · decide
  · decide
  · rename_i hback _ _ _
    exact scan_of_not_mem (by simpa using fun h ↦ hback h.symm)

theorem compositional_plain : Compositional Plain where
  append := Plain.append
  signs {s} hs := plain_of_not_mem fun hmem ↦
    absurd (List.all_eq_true.mp hs '\\' hmem) (by decide)
  escape c := by
    rw [Plain, String.toList_ofList]
    exact scan_escape c

/-! ### Documentation -/

section Documentation

variable {odd : Bool} {s : List Char}

theorem escapesFrom_of_not_mem (h : 'u' ∉ s) : escapesFrom odd s = false := by
  rw [← Bool.not_eq_true, escapesFrom_eq_true_iff]
  rintro ⟨before, after, rfl, _⟩
  exact h (by simp)

theorem not_mem_of_isBlank {c : Char} (hc : Text.isBlank c = false)
    (h : ∀ d ∈ s, Text.isBlank d = true) : c ∉ s := by
  intro hmem
  rw [h c hmem] at hc
  cases hc

theorem escapesFrom_trimEnd : escapesFrom odd (Text.trimEnd s) = escapesFrom odd s := by
  obtain ⟨blanks, hsplit, hblank⟩ := Text.exists_blanks_after s
  have hend : escapesFrom (oddAfter odd (Text.trimEnd s)) blanks = false :=
    escapesFrom_of_not_mem (not_mem_of_isBlank (by decide) hblank)
  conv_rhs => rw [hsplit, escapesFrom_append, hend, Bool.or_false]

theorem escapesFrom_trimStart : escapesFrom false (Text.trimStart s) = escapesFrom false s := by
  obtain ⟨blanks, hsplit, hblank⟩ := Text.exists_blanks_before s
  obtain ⟨hescapes, hodd⟩ := scan_of_not_mem (not_mem_of_isBlank (by decide) hblank)
  conv_rhs => rw [hsplit, escapesFrom_append, hescapes, hodd, Bool.false_or]

/-- The reference that is put in has no backslash, and neither has what it is put in for. -/
theorem escapesFrom_escape : escapesFrom odd (Javadoc.escape s) = escapesFrom odd s := by
  induction s using Javadoc.escape.induct generalizing odd with
  | case1 rest ih =>
    rw [Javadoc.escape, Javadoc.slashReference_eq]
    simp [escapesFrom, nextOdd, ih]
  | case2 c rest hmark ih =>
    rw [Javadoc.escape_cons (Javadoc.head?_ne_slash hmark), escapesFrom, escapesFrom, ih]
  | case3 => rfl

/-- A line feed comes between a backslash and what follows it as much as a new line does. -/
theorem any_escapesFrom_cut {first : List Char} {others : List (List Char)}
    (h : Text.cut (· == '\n') s = first :: others) :
    escapesFrom odd s = (escapesFrom odd first || others.any (escapesFrom false)) := by
  induction s generalizing odd first others with
  | nil =>
    obtain ⟨rfl, rfl⟩ := List.cons.inj h
    rfl
  | cons c rest ih =>
    by_cases hc : c = '\n'
    · subst hc
      obtain ⟨next, more, hrest⟩ := Text.exists_cut_eq_cons (· == '\n') rest
      rw [Text.cut_cons_of_cut rfl, hrest] at h
      obtain ⟨rfl, rfl⟩ := List.cons.inj h
      have hcons : escapesFrom odd ('\n' :: rest) = escapesFrom false rest := by
        simp [escapesFrom, nextOdd]
      rw [hcons, ih hrest]
      rfl
    · obtain ⟨next, more, hrest, hcons⟩ : ∃ next more,
          Text.cut (· == '\n') rest = next :: more ∧
            Text.cut (· == '\n') (c :: rest) = (c :: next) :: more :=
        Text.cut_cons_of_not_cut (by simpa using hc) rest
      rw [hcons] at h
      obtain ⟨rfl, rfl⟩ := List.cons.inj h
      rw [escapesFrom, escapesFrom, ih hrest, Bool.or_assoc]

end Documentation

/-- The scanner finds an escape in the text, if it starts anew there. -/
def escapes (s : String) : Bool :=
  escapesFrom false s.toList

theorem escapes_eq_false {s : String} (hs : Plain s) : escapes s = false :=
  hs.1

theorem escapes_bodyLine (line : List Char) :
    escapes (Javadoc.bodyLine line) = escapesFrom false line := by
  rw [← escapesFrom_trimEnd, Javadoc.bodyLine]
  split
  · rename_i hline
    rw [hline]
    rfl
  · rename_i c rest hline
    have hstart : Plain " * " := plain_of_not_mem (by decide)
    rw [hline, escapes, String.toList_append, escapesFrom_append, hstart.1, hstart.2,
      Bool.false_or, String.toList_ofList]

/-- A documentation comment has the escapes of its text, as nothing is done to a backslash. -/
theorem any_escapes_comment (text : String) :
    (Javadoc.comment text).any escapes = escapes text := by
  have hlines (chars : List Char) : (Javadoc.linesOf chars).any (escapesFrom false) =
      escapesFrom false chars := by
    rw [Javadoc.linesOf]
    split
    · rename_i hempty
      rw [List.isEmpty_iff.mp hempty]
      rfl
    · obtain ⟨first, others, hcut⟩ := Text.exists_cut_eq_cons (· == '\n') chars
      rw [hcut, any_escapesFrom_cut hcut]
      rfl
  have hbody : ((Javadoc.linesOf (Javadoc.escape (Text.trim text.toList))).map Javadoc.bodyLine).any
      escapes = escapes text := by
    have hescapes : escapes ∘ Javadoc.bodyLine = escapesFrom false := funext escapes_bodyLine
    rw [List.any_map, hescapes, hlines, escapesFrom_escape, Text.trim, escapesFrom_trimEnd,
      escapesFrom_trimStart, escapes]
  have hopen : escapes "/**" = false := by decide
  have hclose : escapes " */" = false := by decide
  rw [Javadoc.comment, List.any_append, List.any_cons, hopen, hbody]
  simp [hclose]

/-! ### Lines -/

section Lines

variable {f : Formatter} {odd : Bool}

theorem oddAfter_newline (f : Formatter) : oddAfter odd f.newline.toList = false := by
  rcases newline_cases f with hnewline | hnewline <;> rw [hnewline] <;> cases odd <;> decide

theorem escapesFrom_newline (f : Formatter) : escapesFrom odd f.newline.toList = false := by
  rcases newline_cases f with hnewline | hnewline <;> rw [hnewline] <;> cases odd <;> decide

/-- A line as it is laid out has the escapes of its text, and nothing of one at its end. -/
theorem scan_layout (l : Line) : escapesFrom false (l.layout f).toList = escapes l.text ∧
    oddAfter false (l.layout f).toList = false := by
  have hindent : Plain (String.join (List.replicate l.level f.indent)) := by
    refine plain_of_not_mem fun hmem ↦ ?_
    exact absurd (isBlank_of_mem_indentation f l.level _ hmem) (by decide)
  rw [Line.layout, String.toList_append, String.toList_append, escapesFrom_append,
    escapesFrom_append, oddAfter_append, oddAfter_append, hindent.1, hindent.2, escapesFrom_newline,
    oddAfter_newline, Bool.false_or, Bool.or_false]
  exact ⟨rfl, rfl⟩

/-- No escape goes from one line into the next. -/
theorem escapes_text (lines : List Line) :
    escapes (String.join (lines.map (Line.layout f))) = lines.any (escapes ·.text) := by
  induction lines with
  | nil => rfl
  | cons l rest ih =>
    rw [List.map_cons, String.join_cons, escapes, String.toList_append, escapesFrom_append,
      (scan_layout l).1, (scan_layout l).2, List.any_cons, ← ih]
    rfl

theorem any_escapes_eq_false {lines : List Line} (h : ∀ l ∈ lines, Plain l.text) :
    lines.any (escapes ·.text) = false := by
  rw [List.any_eq_false]
  intro l hl
  rw [escapes_eq_false (h l hl)]
  exact Bool.false_ne_true

end Lines

section Sources

variable {table : ImportTable} {edition : Edition}

/-- Of the lines of a method, those of its documentation alone can have an escape. -/
theorem any_escapes_method {m : Method} (hm : m.WellFormed)
    (hplain : ∀ p ∈ m.parameters, p.annotations = [])
    (hspell : ∀ c ∈ m.references (.jaxrs edition), isQualifiedName (table.spell c) = true) :
    (m.lines (.jaxrs edition) table).any (escapes ·.text) = m.doc.any escapes := by
  have hdirectives : ∀ p ∈ m.parameters, ∀ a ∈ p.annotations, a.ValuesHave Plain := by
    intro p hp
    rw [hplain p hp]
    exact List.forall_mem_nil _
  have hdoc : (m.doc.elim [] Javadoc.comment).any escapes = m.doc.any escapes := by
    cases m.doc with
    | none => rfl
    | some text => exact any_escapes_comment text
  have hannotations : ((m.ownAnnotations (.jaxrs edition)).map table.annotationText).any escapes =
      false := by
    rw [List.any_eq_false, List.forall_mem_map]
    intro a ha
    have hname := hspell a.name
      (List.mem_append_left _ (List.mem_append_left _ (List.mem_map_of_mem ha)))
    rw [escapes_eq_false (compositional_plain.annotationText hname
      (compositional_plain.valuesHave_ownAnnotations m a ha))]
    exact Bool.false_ne_true
  have hsignature : escapes (table.renderSignature (.jaxrs edition) m) = false :=
    escapes_eq_false (compositional_plain.signature hm hdirectives hspell)
  have hblank : escapes Line.blank.text = false := rfl
  rw [Method.lines, List.any_cons, hblank, List.any_map, Bool.false_or]
  have hmap : (fun l : Line ↦ escapes l.text) ∘ Line.mk 1 = escapes := rfl
  rw [hmap, List.any_append, List.any_append, hdoc, hannotations, List.any_cons, hsignature]
  simp

end Sources

end Jaxrs.Java

namespace Jaxrs.Interface

variable {edition : Edition} {f : Formatter} {i : Interface} {text : String}

theorem escapes_text_eq (hplain : ∀ m ∈ i.methods, ∀ p ∈ m.parameters, p.annotations = [])
    (hvalid : i.WellFormed (.jaxrs edition)) :
    Java.escapes (i.text (.jaxrs edition) f) = i.methods.any fun m ↦ m.doc.any Java.escapes := by
  have hspell := hvalid.isQualifiedName_spelling
  have hpreamble := Java.any_escapes_eq_false
    (Java.compositional_plain.preamble hvalid.package hvalid.isQualifiedName_import)
  have hhead : (Javadoc.comment (Framework.jaxrs edition).interfaceDoc ++
      [(i.importTable (.jaxrs edition)).annotationText ((Framework.jaxrs edition).path i.path),
       "public interface " ++ i.name ++ " \x7b"]).any Java.escapes = false := by
    have hdoc : Java.escapes (Framework.jaxrs edition).interfaceDoc = false := by
      cases edition <;> decide +kernel
    have hpath : Java.escapes ((i.importTable (.jaxrs edition)).annotationText
        ((Framework.jaxrs edition).path i.path)) = false :=
      Java.escapes_eq_false (Java.compositional_plain.annotationText (hspell _ List.mem_cons_self)
        (Java.compositional_plain.valuesHave_single (Java.compositional_plain.literal i.path)))
    have hopening := Java.escapes_eq_false (Java.compositional_plain.opening hvalid.name)
    rw [List.any_append, Java.any_escapes_comment, hdoc, List.any_cons, hpath, List.any_cons,
      hopening]
    rfl
  have hmethods : (i.methods.flatMap
      (Method.lines (.jaxrs edition) (i.importTable (.jaxrs edition)))).any (Java.escapes ·.text) =
        i.methods.any fun m ↦ m.doc.any Java.escapes := by
    rw [List.any_flatMap, Bool.eq_iff_iff, List.any_eq_true, List.any_eq_true]
    refine exists_congr fun m ↦ and_congr_right fun hm ↦ ?_
    rw [Java.any_escapes_method (hvalid.methods m hm) (hplain m hm) fun c hc ↦
      hspell c (List.mem_cons_of_mem _ (List.mem_flatMap_of_mem hm hc))]
  have hmap : (fun l : Line ↦ Java.escapes l.text) ∘ Line.mk 0 = Java.escapes := rfl
  have hend : ([⟨0, "\x7d"⟩] : List Line).any (Java.escapes ·.text) = false := by decide
  rw [Interface.text, Java.escapes_text, lines, List.any_append, List.any_append, List.any_append,
    hpreamble, List.any_map, hmap, hhead, hmethods, hend]
  simp

/-- The Unicode escapes of a source file are those of its documentation: everything else is free of
them, whatever its strings are. -/
theorem hasUnicodeEscape_render_iff
    (hplain : ∀ m ∈ i.methods, ∀ p ∈ m.parameters, p.annotations = [])
    (h : i.render (.jaxrs edition) f = .ok text) :
    Java.HasUnicodeEscape text.toList ↔
      ∃ m ∈ i.methods, ∃ doc ∈ m.doc, Java.HasUnicodeEscape doc.toList := by
  obtain ⟨hvalid, rfl⟩ := render_eq_ok_iff.mp h
  have htext := escapes_text_eq (f := f) hplain hvalid
  rw [Java.escapes] at htext
  rw [Java.hasUnicodeEscape_iff, htext, List.any_eq_true]
  refine exists_congr fun m ↦ and_congr_right fun _ ↦ ?_
  rw [Option.any_eq_true]
  simp only [Java.hasUnicodeEscape_iff, Java.escapes]
  exact Iff.rfl

/-- Backslashes before a `u` in strings, and two of them in a comment. -/
def backslashed : Interface where
  package := "org.acme"
  name := "Pets"
  path := "\\users"
  methods := [
    { name := "find"
      doc := some "Files in C:\\\\users\\ "
      path := none
      verb := .get
      produces := ["a\\u0022"]
      consumes := []
      returnType := .void
      parameters := [
        { name := "id"
          type := .primitive .int
          binding := .query "\\\\u"
          constraints := [.pattern "\\u002a\""]
          annotations := [] }] }]

theorem hasUnicodeEscape_render_iff_backslashed :
    (∀ m ∈ backslashed.methods, ∀ p ∈ m.parameters, p.annotations = []) ∧
      backslashed.render (.jaxrs .jakarta) {} = .ok (backslashed.text (.jaxrs .jakarta) {}) ∧
      ¬ Java.HasUnicodeEscape (backslashed.text (.jaxrs .jakarta) {}).toList := by
  have hplain : ∀ m ∈ backslashed.methods, ∀ p ∈ m.parameters, p.annotations = [] := by decide
  have h : backslashed.render (.jaxrs .jakarta) {} =
      .ok (backslashed.text (.jaxrs .jakarta) {}) :=
    render_eq_ok_iff.mpr ⟨by decide +kernel, rfl⟩
  refine ⟨hplain, h, (hasUnicodeEscape_render_iff hplain h).not.mpr ?_⟩
  decide +kernel

/-- A comment that Java takes to end where its text does not. -/
def starred : Interface where
  package := "org.acme"
  name := "Pets"
  path := "/pets"
  methods := [
    { name := "find"
      doc := some "The end \\u002a/ of a comment"
      path := none
      verb := .get
      produces := []
      consumes := []
      returnType := .void
      parameters := [] }]

theorem hasUnicodeEscape_starred :
    (∀ m ∈ starred.methods, ∀ p ∈ m.parameters, p.annotations = []) ∧
      starred.render (.jaxrs .jakarta) {} = .ok (starred.text (.jaxrs .jakarta) {}) ∧
      Java.HasUnicodeEscape (starred.text (.jaxrs .jakarta) {}).toList := by
  have hplain : ∀ m ∈ starred.methods, ∀ p ∈ m.parameters, p.annotations = [] := by decide
  have hvalid : starred.WellFormed (.jaxrs .jakarta) := by decide +kernel
  have hdoc : (starred.methods.any fun m ↦ m.doc.any Java.escapes) = true := by decide +kernel
  refine ⟨hplain, render_eq_ok_iff.mpr ⟨hvalid, rfl⟩, ?_⟩
  rw [Java.hasUnicodeEscape_iff, ← Java.escapes, escapes_text_eq hplain hvalid]
  exact hdoc

end Jaxrs.Interface
