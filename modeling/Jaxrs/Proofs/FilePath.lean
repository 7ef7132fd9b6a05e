import Jaxrs.FilePath
import Jaxrs.Proofs.Identifier
import Mathlib.Data.List.Basic

/-!
Paths below a directory. A path of ordinary names leads neither to the top nor upwards, and joining
it to another path puts its names after those of the other (`segments_join`, `names_join`), so that
its last name is that of the file (`fileName?_join`).
-/

set_option autoImplicit false

namespace Jaxrs.FilePath

/-- Every name between two slashes is that of an entry in a directory. -/
def Ordinary (p : FilePath) : Prop :=
  ∀ name ∈ Text.segments '/' p.text, name ≠ "" ∧ name ≠ "." ∧ name ≠ ".."

theorem eq_of_segments_eq {p q : FilePath}
    (h : Text.segments '/' p.text = Text.segments '/' q.text) : p = q := by
  have htext : p.text = q.text := by
    rw [← Text.joinWith_segments '/' p.text, h, Text.joinWith_segments]
  cases p
  cases q
  exact congrArg FilePath.mk htext

theorem isAbsolute_eq_false_of_not_mem {p : FilePath} (h : "" ∉ Text.segments '/' p.text) :
    p.isAbsolute = false := by
  rw [Bool.eq_false_iff]
  intro habsolute
  obtain ⟨rest, hrest⟩ : ∃ rest, p.text.toList = '/' :: rest :=
    List.head?_eq_some_iff.mp (by simpa [isAbsolute] using habsolute)
  have htext : p.text = "" ++ String.singleton '/' ++ String.ofList rest := by
    rw [← String.toList_inj]
    simpa using hrest
  refine h ?_
  rw [htext, Text.segments_append]
  exact List.mem_append_left _ List.mem_cons_self

theorem Ordinary.isAbsolute_eq_false {p : FilePath} (hp : p.Ordinary) : p.isAbsolute = false :=
  isAbsolute_eq_false_of_not_mem fun hempty ↦ (hp "" hempty).1 rfl

/-- A segment that is the name of an entry or leads upwards. -/
def isName (segment : String) : Bool :=
  segment != "" && segment != "."

theorem names_eq_filter (p : FilePath) : p.names = (Text.segments '/' p.text).filter isName := rfl

theorem Ordinary.names_eq {p : FilePath} (hp : p.Ordinary) :
    p.names = Text.segments '/' p.text := by
  rw [names_eq_filter, List.filter_eq_self]
  intro name hname
  simpa [isName] using ⟨(hp name hname).1, (hp name hname).2.1⟩

/-- What comes between a path and one that is joined to it. -/
def gap (p : FilePath) : String :=
  if p.text.toList.getLast? == some '/' then "" else "/"

theorem join_eq {base p : FilePath} (hbase : base.text ≠ "") (hp : p.isAbsolute = false) :
    base.join p = ⟨base.text ++ base.gap ++ p.text⟩ := by
  have hempty : base.text.isEmpty = false := by simpa [String.isEmpty_iff] using hbase
  rw [join, gap, hp, hempty]
  split
  · rename_i h
    cases h
  · split
    · rw [String.append_empty]
    · rfl

theorem gap_append {p : FilePath} (hp : p.text ≠ "") (before : String) :
    gap ⟨before ++ p.text⟩ = p.gap := by
  have hchars : p.text.toList ≠ [] := by simpa using hp
  rw [gap, gap, String.toList_append, List.getLast?_append_of_ne_nil _ hchars]

theorem isAbsolute_append {p : FilePath} (hp : p.text ≠ "") (after : String) :
    isAbsolute ⟨p.text ++ after⟩ = p.isAbsolute := by
  have hchars : p.text.toList ≠ [] := by simpa using hp
  obtain ⟨first, others, hfirst⟩ := List.exists_cons_of_ne_nil hchars
  rw [isAbsolute, isAbsolute, String.toList_append, hfirst, List.cons_append, List.head?_cons,
    List.head?_cons]

/-- What comes first are the segments of the path that is joined to, but for the empty one that its
last slash leaves. -/
theorem segments_join (base : FilePath) : ∃ start,
    (Text.segments '/' base.text = start ∨ Text.segments '/' base.text = start ++ [""]) ∧
    ∀ p : FilePath, p.Ordinary →
      Text.segments '/' (base.join p).text = start ++ Text.segments '/' p.text := by
  by_cases hbase : base.text = ""
  · refine ⟨[], Or.inr ?_, fun p _ ↦ ?_⟩
    · rw [hbase]
      decide
    · rw [join, if_pos (by simp [hbase]), List.nil_append]
  · by_cases hslash : (base.text.toList.getLast? == some '/') = true
    · obtain ⟨before, hbefore⟩ : ∃ before, base.text.toList = before ++ ['/'] :=
        List.getLast?_eq_some_iff.mp (by simpa using hslash)
      have htext : base.text = String.ofList before ++ String.singleton '/' := by
        rw [← String.toList_inj]
        simpa using hbefore
      refine ⟨Text.segments '/' (String.ofList before), Or.inr ?_, fun p hp ↦ ?_⟩
      · rw [htext, ← String.append_empty (s := String.ofList before ++ _), Text.segments_append]
        rfl
      · rw [join_eq hbase hp.isAbsolute_eq_false, gap, if_pos hslash, String.append_empty, htext,
          Text.segments_append]
    · refine ⟨Text.segments '/' base.text, Or.inl rfl, fun p hp ↦ ?_⟩
      rw [join_eq hbase hp.isAbsolute_eq_false, gap, if_neg hslash, Text.slash_eq_singleton,
        Text.segments_append]

theorem names_join (base : FilePath) {p : FilePath} (hp : p.Ordinary) :
    (base.join p).names = base.names ++ p.names := by
  obtain ⟨start, hstart, hjoin⟩ := base.segments_join
  have hbase : base.names = start.filter isName := by
    rw [names_eq_filter]
    rcases hstart with hstart | hstart
    · rw [hstart]
    · rw [hstart, List.filter_append]
      simp [isName]
  rw [names_eq_filter, hjoin p hp, List.filter_append, hbase]
  rfl

theorem isAbsolute_join (base : FilePath) {p : FilePath} (hp : p.Ordinary) :
    (base.join p).isAbsolute = base.isAbsolute := by
  have hrelative := hp.isAbsolute_eq_false
  by_cases hbase : base.text = ""
  · have hempty : base.isAbsolute = false := by
      rw [isAbsolute, hbase]
      decide
    rw [join, if_pos (by simp [hbase]), hrelative, hempty]
  · rw [join_eq hbase hrelative, String.append_assoc, isAbsolute_append hbase]

theorem join_assoc (base : FilePath) {p q : FilePath} (hp : p.text ≠ "")
    (hrelative : p.isAbsolute = false) (hq : q.isAbsolute = false) :
    (base.join p).join q = base.join (p.join q) := by
  by_cases hbase : base.text = ""
  · have hjoin (r : FilePath) : base.join r = r := by simp [join, hbase]
    rw [hjoin, hjoin]
  · have hinner : (base.join p).text ≠ "" := by simp [join_eq hbase hrelative, hp]
    have houter : (p.join q).isAbsolute = false := by
      rw [join_eq hp hq, String.append_assoc, isAbsolute_append hp, hrelative]
    rw [join_eq hinner hq, join_eq hbase houter, join_eq hbase hrelative, join_eq hp hq,
      gap_append hp]
    simp only [String.append_assoc]

/-- A name without a slash that is neither a dot nor two is a path of its own. -/
theorem ordinary_mk {name : String} (hslash : '/' ∉ name.toList) (hempty : name ≠ "")
    (hdot : name ≠ ".") (hup : name ≠ "..") : Ordinary ⟨name⟩ := by
  intro segment hsegment
  rw [Text.segments_eq_singleton hslash, List.mem_singleton] at hsegment
  rw [hsegment]
  exact ⟨hempty, hdot, hup⟩

theorem Ordinary.names_ne_nil {p : FilePath} (hp : p.Ordinary) : p.names ≠ [] := by
  obtain ⟨first, others, hcut⟩ := Text.exists_cut_eq_cons (· == '/') p.text.toList
  rw [hp.names_eq, Text.segments, hcut, List.map_cons]
  exact List.cons_ne_nil _ _

/-- The last segment of a path below another is a name. -/
theorem exists_segments_join (base : FilePath) {p : FilePath} (hp : p.Ordinary) :
    ∃ before last, Text.segments '/' (base.join p).text = before ++ [last] ∧
      isName last = true := by
  obtain ⟨start, _, hjoin⟩ := base.segments_join
  rcases (Text.segments '/' p.text).eq_nil_or_concat' with hnil | ⟨before, last, hlast⟩
  · exact absurd (hp.names_eq.trans hnil) hp.names_ne_nil
  · obtain ⟨hempty, hdot, _⟩ := hp last (by simp [hlast])
    refine ⟨start ++ before, last, ?_, by simp [isName, hempty, hdot]⟩
    rw [hjoin p hp, hlast, List.append_assoc]

theorem Ordinary.text_ne_empty {p : FilePath} (hp : p.Ordinary) : p.text ≠ "" := by
  intro hempty
  exact (hp "" (by rw [hempty]; decide)).1 rfl

theorem Ordinary.join {p q : FilePath} (hp : p.Ordinary) (hq : q.Ordinary) :
    (p.join q).Ordinary := by
  obtain ⟨start, hstart, hjoin⟩ := p.segments_join
  have hsegments : Text.segments '/' p.text = start := by
    refine hstart.resolve_right fun hempty ↦ ?_
    exact (hp "" (by rw [hempty]; simp)).1 rfl
  intro name hname
  rw [hjoin q hq, ← hsegments] at hname
  rcases List.mem_append.mp hname with hname | hname
  · exact hp name hname
  · exact hq name hname

theorem Ordinary.not_mem_names {p : FilePath} (hp : p.Ordinary) : ".." ∉ p.names := by
  intro hup
  rw [hp.names_eq] at hup
  exact (hp ".." hup).2.2 rfl

theorem fileName?_join (base : FilePath) {p : FilePath} (hp : p.Ordinary) :
    (base.join p).fileName? = p.names.getLast? := by
  rw [fileName?, names_join base hp, List.getLast?_append_of_ne_nil _ hp.names_ne_nil]
  cases hlast : p.names.getLast? with
  | none => rfl
  | some name =>
    have hname : name ≠ ".." := by
      rintro rfl
      exact hp.not_mem_names (List.mem_of_getLast? hlast)
    rw [Option.filter_some, if_pos (by simpa using hname)]

theorem nameExtension?_append {name extension : String} (hname : name ≠ "")
    (h : '.' ∉ extension.toList) : nameExtension? (name ++ "." ++ extension) = some extension := by
  rw [nameExtension?, Text.dot_eq_singleton, Text.splitLast_append name h]
  split
  · rename_i heq
    cases heq
  · rename_i heq
    exact absurd (congrArg Prod.fst heq) (by simpa using hname)
  · rename_i heq
    exact congrArg some (congrArg Prod.snd heq).symm

theorem nameExtension?_eq_some_iff {name extension : String} :
    nameExtension? name = some extension ↔
      '.' ∉ extension.toList ∧ ∃ stem, stem ≠ "" ∧ name = stem ++ "." ++ extension := by
  constructor
  · intro h
    rw [nameExtension?] at h
    rcases Text.splitLast_cases '.' name with ⟨_, hsplit⟩ | ⟨before, last, hname, hlast, hsplit⟩
    · rw [hsplit] at h
      cases h
    · rw [hsplit] at h
      split at h
      · cases h
      · cases h
      · rename_i stem extension' hne heq
        cases heq
        cases h
        exact ⟨hlast, before, hne, hname⟩
  · rintro ⟨hdot, stem, hstem, rfl⟩
    exact nameExtension?_append hstem hdot

/-! ### Names of sources -/

section Source

variable {stem : String} (hstem : isIdentifier stem = true)

include hstem

theorem not_mem_source : '/' ∉ (stem ++ ".java").toList := by
  rw [String.toList_append, List.mem_append, not_or]
  exact ⟨not_mem_of_isIdentifier hstem (by decide), by decide⟩

theorem ordinary_source : Ordinary ⟨stem ++ ".java"⟩ := by
  have hlast : (stem ++ ".java").toList.getLast? = some 'a' := by
    rw [String.toList_append]
    exact List.getLast?_append_of_ne_nil _ (by decide)
  refine ordinary_mk (not_mem_source hstem) (fun h ↦ ?_) (fun h ↦ ?_) (fun h ↦ ?_)
  · simp [h] at hlast
  · simp [h] at hlast
  · simp [h] at hlast

theorem nameExtension?_source : nameExtension? (stem ++ ".java") = some "java" := by
  have hdot : stem ++ ".java" = stem ++ "." ++ "java" := by
    rw [String.append_assoc]
    rfl
  rw [hdot]
  exact nameExtension?_append (ne_empty_of_isIdentifier hstem) (by decide)

end Source

end Jaxrs.FilePath
