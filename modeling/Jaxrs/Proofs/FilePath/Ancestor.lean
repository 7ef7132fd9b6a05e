import Jaxrs.Proofs.FilePath
import Mathlib.Data.List.Induction
import Mathlib.Logic.Relation

/-!
The directories on the way to a path, as the path is written: its parent, the parent of that, and so
on. They are the paths of the names that the path starts with, and they start where it does
(`isAncestor_of_names_eq`).
-/

set_option autoImplicit false

namespace Jaxrs.FilePath

/-- Taking parents leads from the second path to the first. -/
def IsAncestor (q p : FilePath) : Prop :=
  Relation.TransGen (fun inner outer ↦ inner.parent? = some outer) p q

theorem IsAncestor.of_parent {p q : FilePath} (h : p.parent? = some q) : q.IsAncestor p :=
  Relation.TransGen.single h

theorem IsAncestor.trans_parent {p q r : FilePath} (h : r.IsAncestor q) (hp : p.parent? = some q) :
    r.IsAncestor p :=
  Relation.TransGen.head hp h

/-- What stands before the first name of an absolute path. -/
def root (p : FilePath) : List String :=
  if p.isAbsolute then [""] else []

/-- The path of other names that starts where the path does. -/
def withNames (p : FilePath) (names : List String) : FilePath :=
  ⟨(if p.isAbsolute then "/" else "") ++ Text.joinWith "/" names⟩

theorem isName_of_mem_names {p : FilePath} {name : String} (h : name ∈ p.names) :
    isName name = true ∧ '/' ∉ name.toList := by
  rw [names_eq_filter] at h
  obtain ⟨hsegment, hname⟩ := List.mem_filter.mp h
  exact ⟨hname, Text.not_mem_of_mem_segments hsegment⟩

section Names

variable {names : List String} (hnames : ∀ name ∈ names, isName name = true ∧ '/' ∉ name.toList)

include hnames

theorem segments_withNames (p : FilePath) (hne : names ≠ []) :
    Text.segments '/' (p.withNames names).text = p.root ++ names := by
  have hjoin : Text.segments '/' (Text.joinWith "/" names) = names := by
    rw [Text.slash_eq_singleton]
    exact Text.segments_joinWith hne fun name hname ↦ (hnames name hname).2
  rw [withNames, root]
  split
  · have htext : "/" ++ Text.joinWith "/" names =
        "" ++ String.singleton '/' ++ Text.joinWith "/" names := by
      rw [String.empty_append, Text.slash_eq_singleton]
    rw [htext, Text.segments_append, hjoin]
    rfl
  · rw [String.empty_append, hjoin, List.nil_append]

theorem isAbsolute_withNames (p : FilePath) : (p.withNames names).isAbsolute = p.isAbsolute := by
  by_cases habsolute : p.isAbsolute = true
  · rw [habsolute, withNames, if_pos habsolute]
    simp [isAbsolute]
  by_cases hne : names = []
  · rw [hne, withNames, if_neg habsolute, Bool.eq_false_iff.mpr habsolute]
    decide
  · rw [Bool.eq_false_iff.mpr habsolute]
    refine isAbsolute_eq_false_of_not_mem ?_
    rw [segments_withNames hnames p hne, root, if_neg habsolute, List.nil_append]
    exact fun hempty ↦ absurd (hnames "" hempty).1 (by decide)

theorem names_withNames (p : FilePath) : (p.withNames names).names = names := by
  by_cases hne : names = []
  · rw [hne, withNames]
    split
    · decide
    · decide
  · have hroot : p.root.filter isName = [] := by
      rw [root]
      split
      · decide
      · rfl
    rw [names_eq_filter, segments_withNames hnames p hne, List.filter_append, hroot,
      List.nil_append, List.filter_eq_self]
    exact fun name hname ↦ (hnames name hname).1

theorem text_withNames_ne_empty (p : FilePath) (hne : names ≠ []) :
    (p.withNames names).text ≠ "" := by
  intro hempty
  have hself := names_withNames hnames p
  rw [FilePath.names, hempty] at hself
  exact hne (hself.symm.trans (by decide))

theorem withNames_withNames (p : FilePath) (others : List String) :
    (p.withNames names).withNames others = p.withNames others := by
  rw [withNames, isAbsolute_withNames hnames p, withNames]

end Names

theorem parent?_eq {p : FilePath} (hnames : p.names ≠ []) :
    p.parent? = some (p.withNames p.names.dropLast) := by
  rw [parent?, if_neg (by simpa using hnames), withNames]

/-- A parent has all names but the last one, and starts with a slash if the path below it does. -/
theorem eq_withNames_of_parent? {p parent : FilePath} (h : p.parent? = some parent) :
    p.names ≠ [] ∧ parent.names = p.names.dropLast ∧ parent.isAbsolute = p.isAbsolute := by
  have hne : p.names ≠ [] := by
    intro hnil
    rw [parent?, hnil] at h
    cases h
  have hnames : ∀ name ∈ p.names.dropLast, isName name = true ∧ '/' ∉ name.toList :=
    fun name hname ↦ isName_of_mem_names (List.dropLast_subset _ hname)
  rw [parent?_eq hne] at h
  obtain rfl := Option.some.inj h
  exact ⟨hne, names_withNames hnames p, isAbsolute_withNames hnames p⟩

/-- The names that a path starts with are those of a directory on the way to it. -/
theorem isAncestor_of_names_eq {p : FilePath} {before after : List String} (hafter : after ≠ [])
    (h : p.names = before ++ after) : (p.withNames before).IsAncestor p := by
  induction after using List.reverseRecOn generalizing p with
  | nil => exact absurd rfl hafter
  | append_singleton after last ih =>
    have hparts : ∀ name ∈ before ++ after, isName name = true ∧ '/' ∉ name.toList := by
      intro name hname
      refine isName_of_mem_names (p := p) ?_
      rw [h, ← List.append_assoc]
      exact List.mem_append_left _ hname
    have hparent : p.parent? = some (p.withNames (before ++ after)) := by
      rw [parent?_eq (by simp [h]), h, ← List.append_assoc, List.dropLast_concat]
    by_cases hmore : after = []
    · rw [hmore, List.append_nil] at hparent
      exact IsAncestor.of_parent hparent
    · have hinner := ih hmore (names_withNames hparts p)
      rw [withNames_withNames hparts] at hinner
      exact hinner.trans_parent hparent

end Jaxrs.FilePath
