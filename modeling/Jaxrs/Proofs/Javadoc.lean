import Jaxrs.Proofs.Source.Layout

/-!
Documentation comments line by line. Between its first and its last line a comment has a star for
each line of its text, and after the star the line without the white space at its end
(`comment_eq`). The text is trimmed before it is cut into lines, so that neither the first nor the
last of them is blank (`isContents_contents`). No line but the last one holds the end mark, and
neither a line break nor an indentation makes one (`endsOnce_joinWith`). `isComment_indented` says
both for any indentation, and for that of a formatter.
-/

set_option autoImplicit false

namespace Jaxrs

/-! ### End marks -/

section EndMark

variable {c : Char} {s t : List Char}

theorem not_endMark_append (h : ∀ c ∈ s, c ≠ '*') :
    ¬ endMark <:+: s ++ t ↔ ¬ endMark <:+: t := by
  induction s with
  | nil => rfl
  | cons d s ih =>
    obtain ⟨hd, hs⟩ := List.forall_mem_cons.mp h
    rw [List.cons_append, not_endMark_cons, ih hs]
    exact and_iff_right fun hmark ↦ hd hmark.1

/-- An end mark is on one side of a character that is not in it. -/
theorem not_endMark_append_cons (hstar : c ≠ '*') (hslash : c ≠ '/') :
    ¬ endMark <:+: s ++ c :: t ↔ ¬ endMark <:+: s ∧ ¬ endMark <:+: t := by
  induction s with
  | nil =>
    rw [List.nil_append, not_endMark_cons, and_iff_right fun hmark ↦ hstar hmark.1]
    exact (and_iff_right (by decide)).symm
  | cons d s ih =>
    have hhead : (s ++ c :: t).head? = some '/' ↔ s.head? = some '/' := by
      cases s <;> simp [hslash]
    rw [List.cons_append, not_endMark_cons, not_endMark_cons, ih, hhead, and_assoc]

theorem not_endMark_joinWith (ending : LineEnding) {lines : List String}
    (h : ∀ l ∈ lines, ¬ endMark <:+: l.toList) :
    ¬ endMark <:+: (Text.joinWith ending.text lines).toList := by
  induction lines with
  | nil =>
    rw [Text.joinWith]
    decide
  | cons l rest ih =>
    obtain ⟨hl, hrest⟩ := List.forall_mem_cons.mp h
    by_cases hempty : rest = []
    · rw [hempty]
      exact hl
    · have hjoin := ih hrest
      rw [Text.joinWith_cons _ _ hempty, String.toList_append, String.toList_append,
        List.append_assoc]
      cases ending with
      | lf => exact (not_endMark_append_cons (by decide) (by decide)).mpr ⟨hl, hjoin⟩
      | crLf =>
        have hfeed : ¬ endMark <:+: '\n' :: (Text.joinWith LineEnding.crLf.text rest).toList :=
          not_endMark_cons.mpr ⟨fun hmark ↦ absurd hmark.1 (by decide), hjoin⟩
        exact (not_endMark_append_cons (by decide) (by decide)).mpr ⟨hl, hfeed⟩

/-- The end mark is at the end of the text, and nowhere else. -/
def EndsOnce (s : String) : Prop :=
  ∃ before : String, ∀ a b : String, s = a ++ "*/" ++ b ↔ a = before ∧ b = ""

theorem endsOnce_append {s : String} (h : ¬ endMark <:+: (s ++ "*").toList) :
    EndsOnce (s ++ "*/") := by
  refine ⟨s, fun a b ↦ ⟨fun heq ↦ ?_, ?_⟩⟩
  · have hlist : (s ++ "*").toList ++ ['/'] = a.toList ++ endMark ++ b.toList := by
      simpa [endMark] using congrArg String.toList heq
    obtain hb | ⟨rest, d, hb⟩ := List.eq_nil_or_concat b.toList
    · rw [String.toList_eq_nil_iff] at hb
      subst hb
      rw [String.append_empty] at heq
      exact ⟨((String.append_left_inj "*/").mp heq).symm, rfl⟩
    · -- A mark that something follows is in the text before the last slash.
      rw [hb, List.concat_eq_append, ← List.append_assoc] at hlist
      have hfront := (List.append_inj' hlist rfl).1
      exact absurd ⟨a.toList, rest, hfront.symm⟩ h
  · rintro ⟨rfl, rfl⟩
    rw [String.append_empty]

theorem joinWith_concat_append (separator a b : String) (front : List String) :
    Text.joinWith separator (front ++ [a ++ b]) =
      Text.joinWith separator (front ++ [a]) ++ b := by
  induction front with
  | nil => rfl
  | cons s front ih =>
    rw [List.cons_append, List.cons_append, Text.joinWith_cons _ _ (by simp),
      Text.joinWith_cons _ _ (by simp), ih, ← String.append_assoc]

end EndMark

namespace Javadoc

/-! ### Escaped texts -/

section Escape

variable {s t blanks : List Char}

/-- Texts are escaped each by itself unless an end mark is made where they meet. -/
theorem escape_append (h : s.getLast? = some '*' → t.head? ≠ some '/') :
    escape (s ++ t) = escape s ++ escape t := by
  induction s using escape.induct with
  | case1 rest ih =>
    have hrest : rest.getLast? = some '*' → t.head? ≠ some '/' := fun hlast ↦
      h (by simp [List.getLast?_cons, hlast])
    simp [escape, ih hrest]
  | case2 c rest hmark ih =>
    have hrest : rest.getLast? = some '*' → t.head? ≠ some '/' := fun hlast ↦
      h (by simp [List.getLast?_cons, hlast])
    have hhead : c = '*' → (rest ++ t).head? ≠ some '/' := by
      intro hc
      cases rest with
      | nil => exact h (by rw [hc]; rfl)
      | cons d rest => simpa using head?_ne_slash hmark hc
    rw [List.cons_append, escape_cons hhead, escape_cons (head?_ne_slash hmark), ih hrest,
      List.cons_append]
  | case3 => rfl

theorem escape_eq_self (h : '*' ∉ s) : escape s = s := by
  induction s with
  | nil => rfl
  | cons c s ih =>
    rw [List.mem_cons, not_or] at h
    rw [escape_cons fun hc ↦ absurd hc.symm h.1, ih h.2]

theorem escape_blanks (h : ∀ c ∈ blanks, Text.isBlank c = true) : escape blanks = blanks :=
  escape_eq_self fun hmem ↦ absurd (h '*' hmem) (by decide)

theorem escape_blanks_append (h : ∀ c ∈ blanks, Text.isBlank c = true) (t : List Char) :
    escape (blanks ++ t) = blanks ++ escape t := by
  rw [escape_append, escape_blanks h]
  intro hlast
  exact absurd (h '*' (List.mem_of_getLast? hlast)) (by decide)

theorem escape_append_blanks (s : List Char) (h : ∀ c ∈ blanks, Text.isBlank c = true) :
    escape (s ++ blanks) = escape s ++ blanks := by
  rw [escape_append, escape_blanks h]
  intro _ hhead
  exact absurd (h '/' (List.mem_of_head? hhead)) (by decide)

/-- The last character is that of the text, or that of a reference. -/
theorem isBlank_of_getLast?_escape (h : ∀ c ∈ s.getLast?, Text.isBlank c = false) :
    ∀ c ∈ (escape s).getLast?, Text.isBlank c = false := by
  obtain rfl | ⟨front, last, rfl⟩ := List.eq_nil_or_concat s
  · exact h
  rw [List.concat_eq_append] at h ⊢
  by_cases hmark : front.getLast? = some '*' → [last].head? ≠ some '/'
  · have hlast : escape [last] = [last] := escape_cons fun _ ↦ by simp
    rw [escape_append hmark, hlast, List.getLast?_concat]
    rwa [List.getLast?_concat] at h
  · obtain ⟨hstar, hslash⟩ := Classical.not_imp.mp hmark
    obtain ⟨before, rfl⟩ := List.getLast?_eq_some_iff.mp hstar
    obtain rfl : last = '/' := by simpa using hslash
    have hreference : escape ['*', '/'] = ['*', '&', '#', '4', '7', ';'] := by decide
    have hlast : (escape before ++ escape ['*', '/']).getLast? = some ';' := by simp [hreference]
    rw [List.append_assoc, escape_append (by simp), List.singleton_append, hlast]
    rintro c ⟨⟩
    decide

/-- White space around a text has no part in what is done to its end marks. -/
theorem filter_escape_trim (s : List Char) :
    (escape (Text.trim s)).filter (! Text.isBlank ·) = (escape s).filter (! Text.isBlank ·) := by
  obtain ⟨before, after, hsplit, hbefore, hafter⟩ := Text.exists_blanks_around s
  have hnone {blanks : List Char} (h : ∀ c ∈ blanks, Text.isBlank c = true) :
      blanks.filter (! Text.isBlank ·) = [] :=
    List.filter_eq_nil_iff.mpr fun c hc ↦ by simp [h c hc]
  conv_rhs => rw [hsplit, escape_append_blanks _ hafter, escape_blanks_append hbefore,
    List.filter_append, List.filter_append, hnone hbefore, hnone hafter, List.nil_append,
    List.append_nil]

end Escape

/-! ### Contents -/

/-- What follows the stars of a comment, line by line. -/
def contents (text : String) : List String :=
  (linesOf (escape (Text.trim text.toList))).map fun line ↦ String.ofList (Text.trimEnd line)

theorem contents_eq_map (text : String) : contents text =
    ((linesOf (escape (Text.trim text.toList))).map Text.trimEnd).map String.ofList := by
  rw [contents, List.map_map]
  rfl

/-- A star by itself, or with what follows it. -/
def starred (content : String) : String :=
  if content = "" then " *" else " * " ++ content

theorem bodyLine_eq (line : List Char) :
    bodyLine line = starred (String.ofList (Text.trimEnd line)) := by
  rw [bodyLine, starred]
  split
  · rename_i hline
    rw [hline]
    rfl
  · rename_i c rest hline
    rw [hline, if_neg]
    simp

theorem comment_eq (text : String) :
    comment text = "/**" :: (contents text).map starred ++ [" */"] := by
  have hlines : bodyLine = starred ∘ fun line ↦ String.ofList (Text.trimEnd line) :=
    funext bodyLine_eq
  rw [comment, contents, List.map_map, ← hlines]

theorem linesOf_of_ne_nil {s : List Char} (h : s ≠ []) : linesOf s = Text.cut (· == '\n') s := by
  rw [linesOf, if_neg (by simpa using h)]

theorem flatten_linesOf (s : List Char) : (linesOf s).flatten = s.filter (! · == '\n') := by
  by_cases hs : s = []
  · rw [hs]
    rfl
  · rw [linesOf_of_ne_nil hs, Text.flatten_cut]

/-- What the lines of a comment hold, for a text. -/
structure IsContents (text : String) (contents : List String) : Prop where
  first_ne_empty : contents.head? ≠ some ""
  last_ne_empty : contents.getLast? ≠ some ""
  not_mem : ∀ s ∈ contents, '\n' ∉ s.toList
  trimmed : ∀ s ∈ contents, ∀ c ∈ s.toList.getLast?, Text.isBlank c = false
  /-- Nothing but white space is lost. -/
  kept : (contents.flatMap String.toList).filter (! Text.isBlank ·) =
    (escape text.toList).filter (! Text.isBlank ·)

theorem ofList_trimEnd_ne_empty {line : List Char} {c : Char} (hc : c ∈ line)
    (hblank : Text.isBlank c = false) : String.ofList (Text.trimEnd line) ≠ "" := by
  intro hempty
  have hnil : Text.trimEnd line = [] := by simpa using congrArg String.toList hempty
  rw [Text.trimEnd_eq_nil_iff.mp hnil c hc] at hblank
  cases hblank

theorem ne_feed_of_not_blank {c : Char} (h : Text.isBlank c = false) : c ≠ '\n' := by
  rintro rfl
  exact absurd h (by decide)

theorem head?_contents_ne (text : String) : (contents text).head? ≠ some "" := by
  rw [contents]
  cases htext : escape (Text.trim text.toList) with
  | nil => simp [linesOf]
  | cons c rest =>
    have hc : Text.isBlank c = false := by
      refine Text.isBlank_of_head?_trim (s := text.toList) ?_
      rw [← head?_escape, htext]
      rfl
    obtain ⟨first, others, -, hcut⟩ : ∃ first others,
        Text.cut (· == '\n') rest = first :: others ∧
          Text.cut (· == '\n') (c :: rest) = (c :: first) :: others :=
      Text.cut_cons_of_not_cut (by simpa using ne_feed_of_not_blank hc) rest
    rw [linesOf_of_ne_nil (List.cons_ne_nil c rest), hcut, List.map_cons, List.head?_cons]
    exact fun h ↦ ofList_trimEnd_ne_empty List.mem_cons_self hc (Option.some.inj h)

theorem getLast?_contents_ne (text : String) : (contents text).getLast? ≠ some "" := by
  have hblank : ∀ c ∈ (escape (Text.trim text.toList)).getLast?, Text.isBlank c = false :=
    isBlank_of_getLast?_escape fun c hc ↦ Text.isBlank_of_getLast?_trimEnd hc
  rw [contents]
  obtain htext | ⟨front, c, htext⟩ := List.eq_nil_or_concat (escape (Text.trim text.toList))
  · rw [htext]
    simp [linesOf]
  · rw [List.concat_eq_append] at htext
    rw [htext, List.getLast?_concat] at hblank
    have hc := hblank c rfl
    obtain ⟨lines, last, hcut⟩ := Text.exists_cut_eq_concat (· == '\n') front
    have hlast := hcut [c] (by simpa using ne_feed_of_not_blank hc)
    rw [htext, linesOf_of_ne_nil (by simp), hlast, List.map_append, List.map_singleton,
      List.getLast?_concat]
    exact fun h ↦ ofList_trimEnd_ne_empty (by simp) hc (Option.some.inj h)

theorem filter_contents (text : String) :
    ((contents text).flatMap String.toList).filter (! Text.isBlank ·) =
      (escape text.toList).filter (! Text.isBlank ·) := by
  have htrim (lines : List (List Char)) :
      ((lines.map fun line ↦ String.ofList (Text.trimEnd line)).flatMap String.toList).filter
        (! Text.isBlank ·) = lines.flatten.filter (! Text.isBlank ·) := by
    induction lines with
    | nil => rfl
    | cons line lines ih =>
      rw [List.map_cons, List.flatMap_cons, List.filter_append, ih, List.flatten_cons,
        List.filter_append, String.toList_ofList, Text.filter_trimEnd]
  have hfeed (s : List Char) : (s.filter (! · == '\n')).filter (! Text.isBlank ·) =
      s.filter (! Text.isBlank ·) := by
    rw [List.filter_filter]
    refine List.filter_congr fun c _ ↦ ?_
    cases hblank : Text.isBlank c with
    | true => rfl
    | false => simp [ne_feed_of_not_blank hblank]
  rw [contents, htrim, flatten_linesOf, hfeed, filter_escape_trim]

theorem isContents_contents (text : String) : IsContents text (contents text) where
  first_ne_empty := head?_contents_ne text
  last_ne_empty := getLast?_contents_ne text
  not_mem s hs := by
    obtain ⟨line, hline, rfl⟩ := List.mem_map.mp hs
    rw [String.toList_ofList]
    exact fun hfeed ↦ not_mem_of_mem_linesOf hline ((Text.trimEnd_isPrefix line).subset hfeed)
  trimmed s hs c hc := by
    obtain ⟨line, -, rfl⟩ := List.mem_map.mp hs
    rw [String.toList_ofList] at hc
    exact Text.isBlank_of_getLast?_trimEnd hc
  kept := filter_contents text

/-! ### Line endings -/

section LineEnding

variable {blanks : List Char}

theorem isBlank_of_mem_append_feed (hblanks : ∀ c ∈ blanks, Text.isBlank c = true) :
    ∀ c ∈ blanks ++ ['\n'], Text.isBlank c = true :=
  List.forall_mem_append.mpr ⟨hblanks, List.forall_mem_singleton.mpr (by decide)⟩

/-- A line ends at a line feed, with whatever blanks there are before it. -/
theorem map_linesOf_escape (s t : List Char) (hblanks : ∀ c ∈ blanks, Text.isBlank c = true)
    (hfeed : '\n' ∉ blanks) :
    (linesOf (escape (s ++ (blanks ++ ['\n']) ++ t))).map Text.trimEnd =
      (Text.cut (· == '\n') (escape s) ++ Text.cut (· == '\n') (escape t)).map Text.trimEnd := by
  have hescape : escape (s ++ (blanks ++ ['\n']) ++ t) =
      escape s ++ blanks ++ '\n' :: escape t := by
    rw [escape_append (by simp), escape_append_blanks s (isBlank_of_mem_append_feed hblanks)]
    simp
  obtain ⟨front, last, hcut⟩ := Text.exists_cut_eq_concat (· == '\n') (escape s)
  have hlonger := hcut blanks fun c hc ↦ beq_eq_false_iff_ne.mpr fun h ↦ hfeed (h ▸ hc)
  have hself := hcut [] (by simp)
  rw [List.append_nil, List.append_nil] at hself
  rw [hescape, linesOf_of_ne_nil (by simp), Text.cut_append_cons rfl, hlonger, hself]
  simp [Text.trimEnd_append_blanks hblanks]

theorem map_linesOf_trim (s t : List Char) (hblanks : ∀ c ∈ blanks, Text.isBlank c = true)
    (hfeed : '\n' ∉ blanks) :
    (linesOf (escape (Text.trim (s ++ (blanks ++ ['\n']) ++ t)))).map Text.trimEnd =
      if Text.trimStart s = [] then (linesOf (escape (Text.trim t))).map Text.trimEnd
      else if Text.trimEnd t = [] then (linesOf (escape (Text.trim s))).map Text.trimEnd
      else (Text.cut (· == '\n') (escape (Text.trimStart s)) ++
        Text.cut (· == '\n') (escape (Text.trimEnd t))).map Text.trimEnd := by
  rw [Text.trim_append_blanks_append s t (isBlank_of_mem_append_feed hblanks)]
  split_ifs
  · rfl
  · rfl
  · exact map_linesOf_escape (Text.trimStart s) (Text.trimEnd t) hblanks hfeed

end LineEnding

/-- A carriage return before a line feed comes off with the white space at the end of the line. -/
theorem comment_return_feed (a b : String) :
    comment (a ++ "\r\n" ++ b) = comment (a ++ "\n" ++ b) := by
  have hreturn : (a ++ "\r\n" ++ b).toList = a.toList ++ (['\r'] ++ ['\n']) ++ b.toList := by simp
  have hfeed : (a ++ "\n" ++ b).toList = a.toList ++ ([] ++ ['\n']) ++ b.toList := by simp
  have hcontents : contents (a ++ "\r\n" ++ b) = contents (a ++ "\n" ++ b) := by
    rw [contents_eq_map, contents_eq_map, hreturn, hfeed,
      map_linesOf_trim a.toList b.toList (List.forall_mem_singleton.mpr (by decide)) (by decide),
      map_linesOf_trim a.toList b.toList (by simp) (by simp)]
  rw [comment_eq, comment_eq, hcontents]

/-! ### Comments -/

/-- What the lines of a comment are at an indentation, for a text. -/
structure IsComment (indent text : String) (lines : List String) : Prop where
  framed : ∃ contents, IsContents text contents ∧ lines =
    (indent ++ "/**") :: contents.map (fun s ↦ indent ++ starred s) ++ [indent ++ " */"]
  /-- The lines in one text, with line breaks of either kind between them. -/
  endsOnce : ∀ ending : LineEnding, EndsOnce (Text.joinWith ending.text lines)

section Indentation

variable {indent : String} (hindent : ∀ c ∈ indent.toList, c = ' ' ∨ c = '\t')

include hindent

theorem not_endMark_indented {line : String} (h : ¬ endMark <:+: line.toList) :
    ¬ endMark <:+: (indent ++ line).toList := by
  rw [String.toList_append, not_endMark_append]
  · exact h
  · intro c hc
    rcases hindent c hc with rfl | rfl <;> decide

/-- Without its last slash, no line of a comment has an end mark. -/
theorem endsOnce_joinWith (text : String) (ending : LineEnding) :
    EndsOnce (Text.joinWith ending.text ((comment text).map (indent ++ ·))) := by
  have hfront : ∀ line ∈ (("/**" :: (linesOf (escape (Text.trim text.toList))).map bodyLine) ++
      [" *"]).map (indent ++ ·), ¬ endMark <:+: line.toList := by
    rw [List.forall_mem_map, List.forall_mem_append, List.forall_mem_cons,
      List.forall_mem_singleton]
    refine ⟨⟨?_, fun line hline ↦ ?_⟩, ?_⟩
    · exact not_endMark_indented hindent (by decide)
    · exact not_endMark_indented hindent (not_endMark_of_mem_body hline)
    · exact not_endMark_indented hindent (by decide)
  have hstar := not_endMark_joinWith ending hfront
  have hopened : indent ++ " *" = (indent ++ " ") ++ "*" := by rw [String.append_assoc]; rfl
  have hclosed : indent ++ " */" = (indent ++ " ") ++ "*/" := by rw [String.append_assoc]; rfl
  rw [List.map_append, List.map_singleton, hopened, joinWith_concat_append] at hstar
  rw [comment, List.map_append, List.map_singleton, hclosed, joinWith_concat_append]
  exact endsOnce_append hstar

theorem isComment_map (text : String) :
    IsComment indent text ((comment text).map (indent ++ ·)) where
  framed := by
    refine ⟨contents text, isContents_contents text, ?_⟩
    rw [comment_eq, List.map_append, List.map_cons, List.map_map]
    rfl
  endsOnce := endsOnce_joinWith hindent text

end Indentation

/-- Whatever the text is, its comment has the form of one and ends at its end, at any indentation,
so also where it stands in a source file. Line breaks of either kind in the text come to the
same. -/
theorem isComment_indented :
    (∀ indent text : String, (∀ c ∈ indent.toList, c = ' ' ∨ c = '\t') →
      IsComment indent text ((comment text).map (indent ++ ·))) ∧
    (∀ (f : Formatter) (level : Nat) (text : String),
      IsComment (String.join (List.replicate level f.indent)) text
        (((comment text).map (Line.mk level)).map (Line.indented f))) ∧
    ∀ a b : String, comment (a ++ "\r\n" ++ b) = comment (a ++ "\n" ++ b) := by
  refine ⟨fun _ text hindent ↦ isComment_map hindent text, fun f level text ↦ ?_,
    comment_return_feed⟩
  rw [List.map_map]
  exact isComment_map (Java.eq_of_mem_indentation f level) text

/-- Stars and slashes next to each other, at both ends and on both sides of a line break. -/
def slashes : String :=
  "  **/ a *\r\n/ b\n \n**//*/ \n"

theorem isComment_indented_slashes :
    (∀ c ∈ " \t".toList, c = ' ' ∨ c = '\t') ∧
      (comment slashes).map (" \t" ++ ·) =
        [" \t/**", " \t * **&#47; a *", " \t * / b", " \t *", " \t * **&#47;/*&#47;", " \t */"] ∧
      IsComment " \t" slashes ((comment slashes).map (" \t" ++ ·)) := by
  have hchars : " \t".toList = [' ', '\t'] := rfl
  have hindent : ∀ c ∈ " \t".toList, c = ' ' ∨ c = '\t' := by simp [hchars]
  exact ⟨hindent, by decide +kernel, isComment_indented.1 " \t" slashes hindent⟩

end Javadoc

end Jaxrs
