import Jaxrs.Source
import Jaxrs.Proofs.Java.Reading
import Jaxrs.Proofs.Text.Blank

/-!
Comments come to no tokens. The end mark is nowhere in an escaped text (`not_endMark_escape`), so
neither is it in a line of a documentation comment, and the reader of a comment passes over such a
line and its line end (`passes_line`). `reads_comment` is the main statement, for a documentation
comment of any text at any nesting.
-/

set_option autoImplicit false

namespace Jaxrs

/-- The characters that end a comment. -/
def endMark : List Char := ['*', '/']

theorem not_endMark_cons {c : Char} {s : List Char} :
    ¬ endMark <:+: c :: s ↔ ¬ (c = '*' ∧ s.head? = some '/') ∧ ¬ endMark <:+: s := by
  have hprefix : endMark <+: c :: s ↔ c = '*' ∧ s.head? = some '/' := by
    cases s with
    | nil => simp [endMark]
    | cons d rest => simp [endMark, List.cons_prefix_cons, eq_comm]
  rw [List.infix_cons_iff, hprefix, not_or]

namespace Javadoc

theorem slashReference_eq : slashReference = ['&', '#', '4', '7', ';'] := by
  decide

theorem head?_escape (s : List Char) : (escape s).head? = s.head? := by
  fun_cases escape s <;> rfl

theorem head?_ne_slash {c : Char} {s : List Char} (h : ∀ rest, c = '*' → s = '/' :: rest → False) :
    c = '*' → s.head? ≠ some '/' := by
  intro hc hhead
  obtain ⟨rest, rfl⟩ := List.head?_eq_some_iff.mp hhead
  exact h rest hc rfl

/-- Where no end mark begins, the character stays as it is. -/
theorem escape_cons {c : Char} {s : List Char} (h : c = '*' → s.head? ≠ some '/') :
    escape (c :: s) = c :: escape s := by
  rw [escape]
  rintro rest hc rfl
  exact h hc rfl

theorem not_endMark_escape (s : List Char) : ¬ endMark <:+: escape s := by
  induction s using escape.induct with
  | case1 rest ih =>
    rw [escape, slashReference_eq]
    simp [not_endMark_cons, ih]
  | case2 c rest hmark ih =>
    have hhead := head?_ne_slash hmark
    rw [escape_cons hhead, not_endMark_cons, head?_escape]
    exact ⟨fun h ↦ hhead h.1 h.2, ih⟩
  | case3 => simp [escape, endMark]

theorem not_endMark_bodyLine {line : List Char} (h : ¬ endMark <:+: line) :
    ¬ endMark <:+: (bodyLine line).toList := by
  have htrim : ¬ endMark <:+: Text.trimEnd line := fun hmark ↦
    h (hmark.trans (Text.trimEnd_isPrefix line).isInfix)
  rw [bodyLine]
  split
  · decide
  · rename_i c rest hline
    rw [hline] at htrim
    have hcons : (" * " ++ String.ofList (c :: rest)).toList = ' ' :: '*' :: ' ' :: c :: rest := by
      simp
    rw [hcons]
    simp [not_endMark_cons (c := ' '), not_endMark_cons (c := '*'), htrim]

theorem mem_cut_of_mem_linesOf {s line : List Char} (h : line ∈ linesOf s) :
    line ∈ Text.cut (· == '\n') s := by
  rw [linesOf] at h
  split at h
  · exact absurd h List.not_mem_nil
  · exact h

/-- No line of the text of a documentation comment ends the comment. -/
theorem not_endMark_of_mem_body {text line : String}
    (h : line ∈ (linesOf (escape (Text.trim text.toList))).map bodyLine) :
    ¬ endMark <:+: line.toList := by
  obtain ⟨chars, hchars, rfl⟩ := List.mem_map.mp h
  have hinfix := Text.isInfix_of_mem_cut (mem_cut_of_mem_linesOf hchars)
  exact not_endMark_bodyLine fun hmark ↦ not_endMark_escape _ (hmark.trans hinfix)

end Javadoc

namespace Java

/-- The reader of a comment passes over the text and is in the comment still. -/
def Passes (s : String) : Prop :=
  ∀ rest, Mode.comment.read (s.toList ++ rest) = Mode.comment.read rest

theorem Passes.empty : Passes "" := fun _ ↦ rfl

theorem Passes.append {s t : String} (hs : Passes s) (ht : Passes t) : Passes (s ++ t) := by
  intro rest
  rw [String.toList_append, List.append_assoc, hs, ht]

theorem Passes.join {lines : List String} (h : ∀ s ∈ lines, Passes s) :
    Passes (String.join lines) := by
  induction lines with
  | nil => exact Passes.empty
  | cons s rest ih =>
    have happend := (h s List.mem_cons_self).append
      (ih fun t ht ↦ h t (List.mem_cons_of_mem s ht))
    simpa using happend

/-- A character that can stand in an end mark neither first nor second. -/
private theorem read_line_end {c : Char} (hstar : c ≠ '*') (hslash : c ≠ '/') (s rest : List Char) :
    (¬ endMark <:+: s →
      Mode.comment.read (s ++ c :: rest) = Mode.comment.read rest) ∧
    (¬ endMark <:+: '*' :: s →
      Mode.star.read (s ++ c :: rest) = Mode.comment.read rest) := by
  induction s with
  | nil =>
    have hcomment : Mode.comment.step? c = some ([], .comment) := by simp [Mode.step?, hstar]
    have hafter : Mode.star.step? c = some ([], .comment) := by simp [Mode.step?, hstar, hslash]
    exact ⟨fun _ ↦ Mode.read_cons_silent hcomment, fun _ ↦ Mode.read_cons_silent hafter⟩
  | cons d s ih =>
    obtain ⟨ihcomment, ihstar⟩ := ih
    by_cases hd : d = '*'
    · subst hd
      have hcomment : Mode.comment.step? '*' = some ([], .star) := rfl
      have hafter : Mode.star.step? '*' = some ([], .star) := rfl
      constructor
      · intro hmark
        rw [List.cons_append, Mode.read_cons_silent hcomment, ihstar hmark]
      · intro hmark
        rw [List.cons_append, Mode.read_cons_silent hafter, ihstar (not_endMark_cons.mp hmark).2]
    · have hcomment : Mode.comment.step? d = some ([], .comment) := by simp [Mode.step?, hd]
      constructor
      · intro hmark
        rw [List.cons_append, Mode.read_cons_silent hcomment,
          ihcomment (not_endMark_cons.mp hmark).2]
      · intro hmark
        obtain ⟨hfirst, hrest⟩ := not_endMark_cons.mp hmark
        have hne : d ≠ '/' := by
          rintro rfl
          exact hfirst ⟨rfl, rfl⟩
        have hafter : Mode.star.step? d = some ([], .comment) := by simp [Mode.step?, hd, hne]
        rw [List.cons_append, Mode.read_cons_silent hafter,
          ihcomment (not_endMark_cons.mp hrest).2]

theorem passes_blanks {s : String} (h : ∀ c ∈ s.toList, isBlank c = true) : Passes s := by
  have hlist : ∀ chars : List Char, (∀ c ∈ chars, isBlank c = true) →
      ∀ rest, Mode.comment.read (chars ++ rest) = Mode.comment.read rest := by
    intro chars hchars rest
    induction chars with
    | nil => rfl
    | cons c chars ih =>
      have hne : c ≠ '*' := by
        rintro rfl
        exact absurd (hchars '*' List.mem_cons_self) (by decide)
      have hstep : Mode.comment.step? c = some ([], .comment) := by simp [Mode.step?, hne]
      rw [List.cons_append, Mode.read_cons_silent hstep,
        ih fun d hd ↦ hchars d (List.mem_cons_of_mem c hd)]
  exact hlist s.toList h

theorem newline_cases (f : Formatter) : f.newline = "\n" ∨ f.newline = "\r\n" := by
  rw [Formatter.newline]
  cases f.lineEnding with
  | lf => exact Or.inl rfl
  | crLf => exact Or.inr rfl

/-- The reader of a comment passes over a line without the end mark, and over its line end. -/
theorem passes_line {s : String} (h : ¬ endMark <:+: s.toList) (f : Formatter) :
    Passes (s ++ f.newline) := by
  intro rest
  rw [String.toList_append, List.append_assoc]
  rcases newline_cases f with hnewline | hnewline
  · rw [hnewline]
    have hline : '\n' ≠ '*' ∧ '\n' ≠ '/' := by decide
    exact (read_line_end hline.1 hline.2 s.toList rest).1 h
  · rw [hnewline]
    have hreturn : '\r' ≠ '*' ∧ '\r' ≠ '/' := by decide
    have hline : Mode.comment.step? '\n' = some ([], .comment) := rfl
    have hread := (read_line_end hreturn.1 hreturn.2 s.toList ('\n' :: rest)).1 h
    exact hread.trans (Mode.read_cons_silent hline)

/-! ### Lines -/

theorem eq_of_mem_indent (f : Formatter) : ∀ c ∈ f.indent.toList, c = ' ' ∨ c = '\t' := by
  intro c hc
  rw [Formatter.indent] at hc
  split at hc
  · obtain rfl : c = '\t' := by simpa using hc
    exact Or.inr rfl
  · obtain ⟨_, rfl⟩ : f.indentSize ≠ 0 ∧ c = ' ' := by simpa using hc
    exact Or.inl rfl

theorem eq_of_mem_indentation (f : Formatter) (level : Nat) :
    ∀ c ∈ (String.join (List.replicate level f.indent)).toList, c = ' ' ∨ c = '\t' := by
  induction level with
  | zero => simp
  | succ level ih =>
    rw [List.replicate_succ, String.join_cons, String.toList_append]
    intro c hc
    rcases List.mem_append.mp hc with hindent | hrest
    · exact eq_of_mem_indent f c hindent
    · exact ih c hrest

theorem isBlank_of_mem_indentation (f : Formatter) (level : Nat) :
    ∀ c ∈ (String.join (List.replicate level f.indent)).toList, isBlank c = true := by
  intro c hc
  rcases eq_of_mem_indentation f level c hc with rfl | rfl <;> rfl

theorem isBlank_of_mem_newline (f : Formatter) : ∀ c ∈ f.newline.toList, isBlank c = true := by
  rw [← List.all_eq_true]
  rcases newline_cases f with hnewline | hnewline <;> rw [hnewline] <;> decide

/-- A line comes to the tokens of its text. -/
theorem reads_layout {text : String} {ts : List Token} (h : ReadsApart text ts) (f : Formatter)
    (level : Nat) : Reads ((Line.mk level text).layout f) ts := by
  have hindentation := reads_blanks (isBlank_of_mem_indentation f level)
  have hnewline := reads_blanks (isBlank_of_mem_newline f)
  have hbreaks : breaks f.newline = true := by
    rcases newline_cases f with hcase | hcase <;> rw [hcase] <;> decide
  simpa [Line.layout] using (hindentation.append_apart h).append hnewline hbreaks

theorem passes_layout {text : String} (h : ¬ endMark <:+: text.toList) (f : Formatter)
    (level : Nat) : Passes ((Line.mk level text).layout f) := by
  have hindentation := passes_blanks (isBlank_of_mem_indentation f level)
  have hline := hindentation.append (passes_line h f)
  rwa [← String.append_assoc] at hline

/-- The first line of a comment leaves the reader inside it. -/
private theorem read_opening (f : Formatter) (level : Nat) (rest : List Char) :
    Mode.between.read (((Line.mk level "/**").layout f).toList ++ rest) =
      Mode.comment.read rest := by
  have hindentation := reads_blanks (isBlank_of_mem_indentation f level)
  have hslash : Mode.between.step? '/' = some ([], .slash) := rfl
  have hopen : Mode.slash.step? '*' = some ([], .comment) := rfl
  have hstar : Passes ("*" ++ f.newline) := passes_line (by decide) f
  have hsplit : (Line.mk level "/**").layout f =
      String.join (List.replicate level f.indent) ++ ("/" ++ ("*" ++ ("*" ++ f.newline))) := by
    rw [Line.layout, String.append_assoc, show "/**" = "/" ++ ("*" ++ "*") from rfl,
      String.append_assoc, String.append_assoc]
  have hmark : Mode.between.read (("/" ++ ("*" ++ ("*" ++ f.newline))).toList ++ rest) =
      Mode.comment.read (("*" ++ f.newline).toList ++ rest) := by
    rw [String.toList_append, List.append_assoc, String.toList_append, List.append_assoc]
    exact (Mode.read_cons_silent hslash).trans (Mode.read_cons_silent hopen)
  rw [hsplit, String.toList_append, List.append_assoc, hindentation, hmark, hstar]
  simp

/-- The last line of a comment takes the reader out of it. -/
private theorem read_closing (f : Formatter) (level : Nat) (rest : List Char) :
    Mode.comment.read (((Line.mk level " */").layout f).toList ++ rest) =
      Mode.between.read rest := by
  have hindentation := passes_blanks (isBlank_of_mem_indentation f level)
  have hblank : Mode.comment.step? ' ' = some ([], .comment) := rfl
  have hstar : Mode.comment.step? '*' = some ([], .star) := rfl
  have hslash : Mode.star.step? '/' = some ([], .between) := rfl
  have hchars : " */".toList = [' ', '*', '/'] := rfl
  have hmark (after : List Char) :
      Mode.comment.read ([' ', '*', '/'] ++ after) = Mode.between.read after :=
    (Mode.read_cons_silent hblank).trans
      ((Mode.read_cons_silent hstar).trans (Mode.read_cons_silent hslash))
  rw [Line.layout, String.toList_append, String.toList_append, hchars, List.append_assoc,
    List.append_assoc, hindentation, hmark, reads_blanks (isBlank_of_mem_newline f)]
  simp

/-- A documentation comment comes to no tokens, whatever its text is. -/
theorem reads_comment (f : Formatter) (level : Nat) (text : String) :
    Reads (String.join ((Javadoc.comment text).map fun s ↦ (Line.mk level s).layout f)) [] := by
  have hbody : Passes (String.join (((Javadoc.linesOf (Javadoc.escape
      (Text.trim text.toList))).map Javadoc.bodyLine).map fun s ↦ (Line.mk level s).layout f)) := by
    refine Passes.join fun s hs ↦ ?_
    obtain ⟨line, hline, rfl⟩ := List.mem_map.mp hs
    exact passes_layout (Javadoc.not_endMark_of_mem_body hline) f level
  intro rest
  rw [Javadoc.comment, List.cons_append, List.map_cons, List.map_append, String.join_cons,
    String.join_append, String.toList_append, String.toList_append, List.append_assoc,
    List.append_assoc, read_opening, hbody, List.map_singleton, String.join_cons, String.join_nil,
    String.append_empty, read_closing]
  simp

end Java

end Jaxrs
