import Jaxrs.Proofs.Java.Comment
import Jaxrs.Proofs.Source.Composition
import Jaxrs.Proofs.Source.Fault
import Jaxrs.Proofs.Text.LineBreak
import Mathlib.Data.List.Chain
import Mathlib.Data.List.Infix

/-!
What a formatter has a say in. A source file is a list of lines with a nesting level, whatever the
formatter, which adds the indentation and the line endings (`Interface.layout_render`). No text
brings a line ending of its own into it: string literals escape line breaks, and documentation is
cut at its line feeds, so that a carriage return can only be left at the end of a line, where it is
taken off with the white space (`Javadoc.unbroken_comment`).
-/

set_option autoImplicit false

namespace Jaxrs

/-! ### Strings -/

theorem Literal.not_mem_escape (c : Char) : '\r' ∉ escape c ∧ '\n' ∉ escape c := by
  unfold escape
  split
  · decide
  · decide
  · decide
  · decide
  · decide
  · rename_i hline hreturn _
    simp only [List.mem_singleton]
    exact ⟨fun h ↦ hreturn h.symm, fun h ↦ hline h.symm⟩

theorem Text.compositional_unbroken : Compositional Text.Unbroken where
  append {s t} hs ht := by
    rw [Text.Unbroken, String.toList_append, List.mem_append, List.mem_append]
    exact ⟨not_or_intro hs.1 ht.1, not_or_intro hs.2 ht.2⟩
  signs {s} hs := by
    have hbreak {c : Char} (hc : isSourceChar c = false) : c ∉ s.toList := fun hmem ↦
      absurd (List.all_eq_true.mp hs c hmem) (Bool.eq_false_iff.mp hc)
    exact ⟨hbreak (by decide), hbreak (by decide)⟩
  escape c := by
    rw [Text.Unbroken, String.toList_ofList]
    exact Literal.not_mem_escape c

/-! ### Documentation -/

/-- Every carriage return of the text is directly followed by a line feed. -/
def Text.PairedReturns (s : String) : Prop :=
  ∀ rest, '\r' :: rest <:+ s.toList → rest.head? = some '\n'

instance (s : String) : Decidable (Text.PairedReturns s) :=
  decidable_of_iff (∀ t ∈ s.toList.tails, t.head? = some '\r' → t.tail.head? = some '\n') <| by
    simp only [List.mem_tails]
    constructor
    · intro h rest hrest
      exact h _ hrest rfl
    · intro h t ht hhead
      obtain ⟨rest, rfl⟩ := List.head?_eq_some_iff.mp hhead
      exact h rest ht

namespace Javadoc

/-- What may stand next to each other, wherever a text is cut. -/
def MayFollow (c d : Char) : Prop :=
  c = '\r' → d = '\n'

variable {s : List Char}

theorem isChain_of_pairedReturns (h : ∀ rest, '\r' :: rest <:+ s → rest.head? = some '\n') :
    s.IsChain MayFollow := by
  induction s with
  | nil => exact List.IsChain.nil
  | cons c rest ih =>
    rw [List.isChain_cons]
    constructor
    · rintro d hd rfl
      exact Option.some.inj (hd.symm.trans (h rest List.suffix_rfl))
    · exact ih fun tail htail ↦ h tail (htail.trans (List.suffix_cons c rest))

/-- A reference put in for a slash is not next to a carriage return. -/
theorem isChain_escape (h : s.IsChain MayFollow) : (escape s).IsChain MayFollow := by
  induction s using escape.induct with
  | case1 rest ih =>
    have hrest := ih (List.isChain_cons.mp (List.isChain_cons.mp h).2).2
    rw [escape, slashReference_eq]
    simp [List.isChain_cons, MayFollow, hrest]
  | case2 c rest hmark ih =>
    rw [List.isChain_cons] at h
    rw [escape_cons (head?_ne_slash hmark), List.isChain_cons, head?_escape]
    exact ⟨h.1, ih h.2⟩
  | case3 => exact List.IsChain.nil

/-- Where no line feed is, a carriage return is the last character, and it is blank. -/
theorem not_mem_trimEnd (hs : s.IsChain MayFollow) (hfeed : '\n' ∉ s) : '\r' ∉ Text.trimEnd s := by
  intro hmem
  have hprefix := Text.trimEnd_isPrefix s
  obtain ⟨before, after, hsplit⟩ := List.append_of_mem hmem
  cases after with
  | nil =>
    have hblank := Text.isBlank_of_getLast?_trimEnd (s := s) (c := '\r') (by simp [hsplit])
    exact absurd hblank (by decide)
  | cons d after =>
    have hchain := hs.prefix hprefix
    rw [hsplit, List.isChain_append_cons_cons] at hchain
    have hd : d ∈ s := hprefix.subset (by simp [hsplit])
    exact hfeed (hchain.2.1 rfl ▸ hd)

theorem unbroken_bodyLine (hs : s.IsChain MayFollow) (hfeed : '\n' ∉ s) :
    Text.Unbroken (bodyLine s) := by
  have hfeed' : '\n' ∉ Text.trimEnd s := fun hmem ↦ hfeed ((Text.trimEnd_isPrefix s).subset hmem)
  have hreturn := not_mem_trimEnd hs hfeed
  rw [bodyLine]
  split
  · decide
  · rename_i c rest hline
    rw [hline] at hfeed' hreturn
    refine Text.compositional_unbroken.append (by decide) ?_
    rw [Text.Unbroken, String.toList_ofList]
    exact ⟨hreturn, hfeed'⟩

theorem not_mem_of_mem_linesOf {line : List Char} (h : line ∈ linesOf s) : '\n' ∉ line := by
  intro hfeed
  exact absurd (Text.not_cut_of_mem_cut (mem_cut_of_mem_linesOf h) '\n' hfeed) (by decide)

/-- A text may have line breaks of any kind but for a carriage return by itself. -/
theorem unbroken_comment {text : String} (h : Text.PairedReturns text) :
    ∀ line ∈ comment text, Text.Unbroken line := by
  have htrim : (Text.trim text.toList).IsChain MayFollow :=
    List.IsChain.infix (isChain_of_pairedReturns h) (Text.trim_isInfix text.toList)
  have hchain := isChain_escape htrim
  have hbody : ∀ line ∈ linesOf (escape (Text.trim text.toList)),
      Text.Unbroken (bodyLine line) := by
    intro line hline
    have hpart := Text.isInfix_of_mem_cut (mem_cut_of_mem_linesOf hline)
    have hfollow := List.IsChain.infix hchain hpart
    exact unbroken_bodyLine hfollow (not_mem_of_mem_linesOf hline)
  rw [comment, List.forall_mem_append, List.forall_mem_cons, List.forall_mem_map,
    List.forall_mem_singleton]
  exact ⟨⟨by decide, hbody⟩, by decide⟩

end Javadoc

/-! ### Files -/

/-- The text of the line, after one unit of indentation for each level. -/
def Line.indented (f : Formatter) (line : Line) : String :=
  String.join (List.replicate line.level f.indent) ++ line.text

theorem Formatter.unbroken_indent (f : Formatter) : Text.Unbroken f.indent := by
  rw [indent]
  split
  · decide
  · rw [Text.Unbroken, String.toList_ofList, List.mem_replicate, List.mem_replicate]
    exact ⟨fun h ↦ absurd h.2 (by decide), fun h ↦ absurd h.2 (by decide)⟩

theorem Line.unbroken_indented {line : Line} (h : Text.Unbroken line.text) (f : Formatter) :
    Text.Unbroken (line.indented f) := by
  have hindentation : Text.Unbroken (String.join (List.replicate line.level f.indent)) := by
    refine Text.compositional_unbroken.join fun s hs ↦ ?_
    rw [List.eq_of_mem_replicate hs]
    exact f.unbroken_indent
  exact Text.compositional_unbroken.append hindentation h

namespace Interface

variable {framework : Framework} {edition : Edition} {i : Interface} {f : Formatter}
  {text : String}

/-- The names and literals of directives, which are put into the source as they are. -/
def UnbrokenDirectives (i : Interface) : Prop :=
  ∀ m ∈ i.methods, ∀ p ∈ m.parameters, ∀ a ∈ p.annotations, a.ValuesHave Text.Unbroken

def PairedReturns (i : Interface) : Prop :=
  ∀ m ∈ i.methods, ∀ doc ∈ m.doc, Text.PairedReturns doc

instance (i : Interface) : Decidable i.UnbrokenDirectives :=
  inferInstanceAs (Decidable (∀ m ∈ i.methods, ∀ p ∈ m.parameters, ∀ a ∈ p.annotations,
    a.ValuesHave Text.Unbroken))

instance (i : Interface) : Decidable i.PairedReturns :=
  inferInstanceAs (Decidable (∀ m ∈ i.methods, ∀ doc ∈ m.doc, Text.PairedReturns doc))

theorem level_of_mem_preamble {package : String} {table : ImportTable} :
    ∀ l ∈ preamble package table, l.level = 0 := by
  rw [preamble, List.forall_mem_append]
  constructor
  · split <;> simp [Line.blank]
  · split <;> simp [Line.blank, or_imp, forall_and]

/-- Only what belongs to a method is nested. -/
theorem level_le_one : ∀ l ∈ i.lines framework, l.level ≤ 1 := by
  have hmethods : ∀ m ∈ i.methods, ∀ l ∈ m.lines framework (i.importTable framework),
      l.level ≤ 1 := by
    intro m _
    rw [Method.lines, List.forall_mem_cons, List.forall_mem_map]
    exact ⟨Nat.zero_le 1, fun _ _ ↦ le_rfl⟩
  rw [lines, List.forall_mem_append, List.forall_mem_append, List.forall_mem_append,
    List.forall_mem_map, List.forall_mem_flatMap, List.forall_mem_singleton]
  refine ⟨⟨⟨fun l hl ↦ ?_, fun _ _ ↦ Nat.zero_le 1⟩, hmethods⟩, Nat.zero_le 1⟩
  rw [level_of_mem_preamble l hl]
  exact Nat.zero_le 1

theorem unbroken_lines (hi : i.WellFormed (.jaxrs edition)) (hdirectives : i.UnbrokenDirectives)
    (hdocs : i.PairedReturns) : ∀ l ∈ i.lines (.jaxrs edition), Text.Unbroken l.text := by
  have hinterface : Text.PairedReturns (Framework.jaxrs edition).interfaceDoc := by
    cases edition <;> decide +kernel
  exact Text.compositional_unbroken.lines hi (Javadoc.unbroken_comment hinterface)
    (fun m hm doc hdoc ↦ Javadoc.unbroken_comment (hdocs m hm doc hdoc)) hdirectives

/-- A list of lines as a file, line by line. -/
theorem text_eq_join (framework : Framework) (f : Formatter) (i : Interface) :
    i.text framework f = String.join ((i.lines framework).map fun l ↦ l.indented f ++ f.newline) :=
  rfl

theorem stretches_text {marks : List String} (hmarks : Text.Marks marks f.newline)
    (hlines : ∀ l ∈ i.lines framework, Text.Unbroken l.text) :
    Text.stretches marks (i.text framework f) =
      (i.lines framework).map (fun l ↦ (l.indented f, f.newline)) ++ [("", "")] := by
  have hindented : ∀ s ∈ (i.lines framework).map (Line.indented f), Text.Unbroken s := by
    rw [List.forall_mem_map]
    exact fun l hl ↦ Line.unbroken_indented (hlines l hl) f
  have hjoin := Text.stretches_join hmarks hindented
  rw [List.map_map, List.map_map] at hjoin
  exact hjoin

/-- The formatter influences white space only: either there is no file with any, for one and the
same reason, or there is a list of lines from which the file of every formatter is made. For JAX-RS
these are the lines that the file is read as, unless a directive has a line break or a documentation
has a carriage return by itself. -/
theorem layout_render (framework : Framework) (i : Interface) :
    (∃ e, ∀ f, i.render framework f = .error e) ∨
      ∃ lines : List Line, (∀ l ∈ lines, l.level ≤ 1) ∧
        (∀ f, i.render framework f =
          .ok (String.join (lines.map fun l ↦ l.indented f ++ f.newline))) ∧
        ∀ edition, framework = .jaxrs edition → i.UnbrokenDirectives → i.PairedReturns →
          (∀ l ∈ lines, Text.Unbroken l.text) ∧
            ∀ f text, i.render framework f = .ok text →
              Text.stretches Text.lineEndings text =
                  lines.map (fun l ↦ (l.indented f, f.newline)) ++ [("", "")] ∧
                Text.splitAt f.newline text = lines.map (Line.indented f) ++ [""] := by
  by_cases hi : i.WellFormed framework
  · refine Or.inr ⟨i.lines framework, level_le_one, fun f ↦ ?_, ?_⟩
    · exact render_eq_ok_iff.mpr ⟨hi, text_eq_join framework f i⟩
    · rintro edition rfl hdirectives hdocs
      have hlines := unbroken_lines hi hdirectives hdocs
      refine ⟨hlines, fun f text htext ↦ ?_⟩
      obtain ⟨-, rfl⟩ := render_eq_ok_iff.mp htext
      have hnewline := Java.newline_cases f
      refine ⟨stretches_text (Text.marks_lineEndings hnewline) hlines, ?_⟩
      rw [Text.splitAt, stretches_text (Text.marks_singleton hnewline) hlines, List.map_append,
        List.map_map]
      rfl
  · rcases Except.ok_or_error (i.render framework {}) with hok | ⟨e, he⟩
    · exact absurd (exists_render_eq_ok_iff.mp hok) hi
    · rw [render_eq_error_iff_head?_faults] at he
      exact Or.inl ⟨e, fun f ↦ render_eq_error_iff_head?_faults.mpr he⟩

/-- Line breaks in the documentation, a path, a media type, a pattern and after a directive. -/
def wrapped : Interface where
  package := "org.acme"
  name := "Pets"
  path := "/pets\n"
  methods := [
    { name := "find"
      doc := some "Finds a pet.\r\n\r\nBy its name.\nOr not.\r\n"
      path := some "\r"
      verb := .get
      produces := ["text/plain\r\n"]
      consumes := []
      returnType := .plain "java.lang.String"
      parameters := [
        { name := "name"
          type := .plain "java.lang.String"
          binding := .query "na\rme"
          constraints := [.pattern "\n"]
          annotations := [⟨"org.acme.Trimmed", [⟨"at", "\"\\n\""⟩]⟩] }] }]

theorem layout_render_wrapped :
    wrapped.UnbrokenDirectives ∧ wrapped.PairedReturns ∧
      ∃ lines : List Line, (∀ l ∈ lines, Text.Unbroken l.text) ∧
        ∀ f, ∃ text, wrapped.render (.jaxrs .jakarta) f = .ok text ∧
          Text.splitAt f.newline text = lines.map (Line.indented f) ++ [""] := by
  have hdirectives : wrapped.UnbrokenDirectives := by decide +kernel
  have hdocs : wrapped.PairedReturns := by decide +kernel
  have hvalid : wrapped.WellFormed (.jaxrs .jakarta) := by decide +kernel
  refine ⟨hdirectives, hdocs, ?_⟩
  rcases layout_render (.jaxrs .jakarta) wrapped with ⟨e, he⟩ | ⟨lines, -, hrender, hjaxrs⟩
  · obtain ⟨text, htext⟩ := exists_render_eq_ok_iff.mpr hvalid
    exact nomatch htext.symm.trans (he {})
  · obtain ⟨hlines, hsplit⟩ := hjaxrs .jakarta rfl hdirectives hdocs
    exact ⟨lines, hlines, fun f ↦ ⟨_, hrender f, (hsplit f _ (hrender f)).2⟩⟩

end Interface

end Jaxrs
