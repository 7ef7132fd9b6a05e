import Jaxrs.Proofs.FilePath.Ancestor
import Jaxrs.Proofs.FileTree.Editing

/-!
The directories that operations make. Whether or not it succeeds, making the directory at the end of
a path makes none but on the way there (`addsDirectories_makeDirectories`). The directory that a
file is to lie in is made like this, so that what is made for a file is at the places of the
ancestors of its path (`addsDirectories_createDirectories`).
-/

set_option autoImplicit false

namespace Jaxrs.FileTree

variable {t t' t'' : FileTree} {made made' written : Place → Prop} {place : Place}

/-- The directories that the second tree has beyond those of the first are at places where they may
be made. -/
def AddsDirectories (t t' : FileTree) (made : Place → Prop) : Prop :=
  ∀ place, t'.find? place = some .directory → t.find? place = some .directory ∨ made place

namespace AddsDirectories

theorem refl (t : FileTree) : AddsDirectories t t made :=
  fun _ h ↦ Or.inl h

theorem mono (h : AddsDirectories t t' made) (hmade : ∀ place, made place → made' place) :
    AddsDirectories t t' made' :=
  fun place hplace ↦ (h place hplace).imp_right (hmade place)

theorem trans (h : AddsDirectories t t' made) (h' : AddsDirectories t' t'' made) :
    AddsDirectories t t'' made := by
  intro place hplace
  rcases h' place hplace with hbefore | hmade
  · exact h place hbefore
  · exact Or.inr hmade

end AddsDirectories

theorem addsDirectories_put_directory (t : FileTree) (place : Place) :
    AddsDirectories t (t.put place .directory) (· = place) := by
  intro other hother
  by_cases hne : other = place
  · exact Or.inr hne
  · exact Or.inl (by rwa [find?_put_of_ne hne] at hother)

theorem addsDirectories_put_file (t : FileTree) (place : Place) (content : Content) :
    AddsDirectories t (t.put place (.file content)) made := by
  intro other hother
  by_cases hthere : t.find? other = some .directory
  · exact Or.inl hthere
  · by_cases hne : other = place
    · rw [← hne, find?_put_self hthere] at hother
      cases hother
    · exact Or.inl (by rwa [find?_put_of_ne hne] at hother)

theorem addsDirectories_writeText (t : FileTree) (p : FilePath) (s : String) :
    AddsDirectories t (t.writeText p s).1 made := by
  rcases t.writeText_cases p s with ⟨place, _, _, hwrite⟩ | ⟨⟨e, hwrite⟩, _⟩
  · rw [hwrite]
    exact addsDirectories_put_file t place _
  · rw [hwrite]
    exact .refl t

/-! ### On the way of the segments -/

/-- The segments of a path, last first, lead to the place or through it. -/
def LeadsThrough (t : FileTree) (start : Place) (segments : List String) (place : Place) : Prop :=
  ∃ inner, inner ≠ [] ∧ inner <:+ segments ∧ t.walk start inner.reverse = .ok place

section LeadsThrough

variable {start : Place} {segment : String} {segments outer : List String}

theorem LeadsThrough.cons (h : t.LeadsThrough start outer place) :
    t.LeadsThrough start (segment :: outer) place := by
  obtain ⟨inner, hne, hinner, hwalk⟩ := h
  exact ⟨inner, hne, hinner.trans (List.suffix_cons segment outer), hwalk⟩

theorem Grows.leadsThrough (h : t.Grows t' written) (ht : t.LeadsThrough start segments place) :
    t'.LeadsThrough start segments place := by
  obtain ⟨inner, hne, hinner, hwalk⟩ := ht
  exact ⟨inner, hne, hinner, h.walk hwalk⟩

theorem addsDirectories_makeDirectory (h : t.makeDirectory start segment outer = .ok t') :
    AddsDirectories t t' (t'.LeadsThrough start (segment :: outer)) := by
  have hgrows : t.Grows t' fun _ ↦ False := (edited_makeDirectory h).grows
  obtain ⟨parent, hparent, hdirectory, _, rfl⟩ := makeDirectory_eq_ok_iff.mp h
  refine (addsDirectories_put_directory t (step parent segment)).mono ?_
  rintro _ rfl
  refine ⟨segment :: outer, List.cons_ne_nil segment outer, List.suffix_refl _, hgrows.walk ?_⟩
  exact walk_reverse_cons_eq_ok_iff.mpr ⟨parent, hparent, hdirectory, rfl⟩

theorem addsDirectories_makeDirectories (t : FileTree) (start : Place) (segments : List String) :
    AddsDirectories t (t.makeDirectories start segments).1
      ((t.makeDirectories start segments).1.LeadsThrough start segments) := by
  induction segments generalizing t with
  | nil => exact .refl t
  | cons segment outer ih =>
    rw [makeDirectories]
    split
    · rename_i hmade
      exact addsDirectories_makeDirectory hmade
    · have houter : AddsDirectories t (t.makeDirectories start outer).1
          ((t.makeDirectories start outer).1.LeadsThrough start (segment :: outer)) :=
        (ih t).mono fun _ ↦ LeadsThrough.cons
      split
      · rename_i heq
        rwa [heq] at houter
      · rename_i heq
        rw [heq] at houter
        split
        · rename_i hmade
          have hgrows : Grows _ _ fun _ ↦ False := (edited_makeDirectory hmade).grows
          have hfirst := houter.mono fun _ ↦ hgrows.leadsThrough
          exact hfirst.trans (addsDirectories_makeDirectory hmade)
        · exact houter
    · exact .refl t

end LeadsThrough

/-! ### Above a path -/

/-- The slash of an absolute path leads nowhere but to the top. -/
theorem walk_root (t : FileTree) (p : FilePath) (names : List String) :
    t.walk (t.start p) (p.root ++ names) = t.walk (t.start p) names := by
  rw [FilePath.root]
  split
  · rename_i habsolute
    rw [start, if_pos habsolute, List.singleton_append, walk, find?_root]
    rfl
  · rfl

/-- A directory on the way to the path is at the place. -/
def Above (t : FileTree) (p : FilePath) (place : Place) : Prop :=
  ∃ q : FilePath, q.IsAncestor p ∧ t.resolve q = .ok place

variable {p parent : FilePath}

theorem Grows.above (h : t.Grows t' written) (ht : t.Above p place) : t'.Above p place := by
  obtain ⟨q, hq, hplace⟩ := ht
  exact ⟨q, hq, h.resolve hplace⟩

/-- What the names of the parent lead through is an ancestor's place. -/
theorem LeadsThrough.above (hnames : p.names ≠ [])
    (h : t.LeadsThrough (t.start p) p.names.dropLast.reverse place) : t.Above p place := by
  obtain ⟨inner, hinner, ⟨rest, hrest⟩, hwalk⟩ := h
  have hdropLast : p.names.dropLast = inner.reverse ++ rest.reverse := by
    rw [← List.reverse_append, hrest, List.reverse_reverse]
  have hsplit : p.names = inner.reverse ++ (rest.reverse ++ [p.names.getLast hnames]) := by
    rw [← List.append_assoc, ← hdropLast, List.dropLast_append_getLast]
  have hparts : ∀ name ∈ inner.reverse, FilePath.isName name = true ∧ '/' ∉ name.toList := by
    intro name hname
    refine FilePath.isName_of_mem_names (p := p) ?_
    rw [hsplit]
    exact List.mem_append_left _ hname
  have hne : inner.reverse ≠ [] := by simpa using hinner
  refine ⟨p.withNames inner.reverse, FilePath.isAncestor_of_names_eq (by simp) hsplit,
    resolve_eq_ok_iff.mpr ⟨FilePath.text_withNames_ne_empty hparts p hne, ?_⟩⟩
  rw [FilePath.segments_withNames hparts p hne,
    start_eq_of_isAbsolute_eq (FilePath.isAbsolute_withNames hparts p), walk_root]
  exact hwalk

theorem addsDirectories_createDirectories (h : p.parent? = some parent) :
    AddsDirectories t (t.createDirectories parent).1 ((t.createDirectories parent).1.Above p) := by
  obtain ⟨hne, hnames, habsolute⟩ := FilePath.eq_withNames_of_parent? h
  have hgrows : t.Grows (t.createDirectories parent).1 fun _ ↦ False :=
    (edited_createDirectories t parent).grows
  have hstart : t.start parent = (t.createDirectories parent).1.start p := by
    rw [hgrows.start, start_eq_of_isAbsolute_eq habsolute]
  have hmade := addsDirectories_makeDirectories t (t.start parent) parent.names.reverse
  refine hmade.mono fun place hplace ↦ LeadsThrough.above hne ?_
  rw [← hnames, ← hstart]
  exact hplace

end Jaxrs.FileTree
