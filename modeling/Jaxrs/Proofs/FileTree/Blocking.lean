import Jaxrs.Proofs.FileTree.MakingDirectories

/-!
What stands in the way of a file. Directories are made as far as they are missing, so that making
them fails only at a file in the place of one (`fileOn_of_makeDirectories`). Once the parent of a
path is there the path leads to a place (`exists_resolve_of_hasDirectory`), and a file can be
written unless a directory is there. `Blocked` puts together what is left.
-/

set_option autoImplicit false

namespace Jaxrs.FileTree

variable {t t' : FileTree} {start : Place} {segment : String} {segments outer : List String}

/-- A file is where the segments, last first, lead to or through. -/
def FileOn (t : FileTree) (start : Place) (segments : List String) : Prop :=
  ∃ place content, t.LeadsThrough start segments place ∧ t.find? place = some (.file content)

theorem FileOn.cons (h : t.FileOn start outer) : t.FileOn start (segment :: outer) := by
  obtain ⟨place, content, hway, hfile⟩ := h
  exact ⟨place, content, hway.cons, hfile⟩

section Making

variable (hstart : t.find? start = some .directory)

include hstart

theorem fileOn_of_file {place : Place} {content : Content}
    (hwalk : t.walk start segments.reverse = .ok place)
    (hfile : t.find? place = some (.file content)) : t.FileOn start segments := by
  refine ⟨place, content, ⟨segments, ?_, List.suffix_refl segments, hwalk⟩, hfile⟩
  rintro rfl
  obtain rfl : start = place := Except.ok.inj hwalk
  rw [hstart] at hfile
  cases hfile

theorem fileOn_of_walk {e : FileError} (h : t.walk start segments.reverse = .error e)
    (he : e ≠ .notFound) : t.FileOn start segments := by
  induction segments with
  | nil => cases h
  | cons segment outer ih =>
    rw [List.reverse_cons, walk_append] at h
    rcases Except.bind_eq_error_iff.mp h with houter | ⟨parent, hparent, hlast⟩
    · exact (ih houter).cons
    · rw [walk] at hlast
      split at hlast
      · cases hlast
        exact absurd rfl he
      · rename_i hfile
        exact (fileOn_of_file hstart hparent hfile).cons
      · cases hlast

/-- A directory that is missing has a file in its way, unless something that leads to it is missing
too. -/
theorem fileOn_of_makeDirectory {e : FileError}
    (h : t.makeDirectory start segment outer = .error e) (he : e ≠ .notFound)
    (hmissing : t.leadsToDirectory start (segment :: outer) = false) :
    t.FileOn start (segment :: outer) := by
  rw [makeDirectory] at h
  rcases Except.bind_eq_error_iff.mp h with houter | ⟨parent, hparent, hmake⟩
  · exact (fileOn_of_walk hstart houter he).cons
  · split at hmake
    · cases hmake
      exact absurd rfl he
    · rename_i hfile
      exact (fileOn_of_file hstart hparent hfile).cons
    · rename_i hdirectory
      cases hentry : t.find? (step parent segment) with
      | none =>
        simp only [hentry] at hmake
        cases hmake
      | some entry =>
        cases entry with
        | file content =>
          refine fileOn_of_file hstart (walk_reverse_cons_eq_ok_iff.mpr ?_) hentry
          exact ⟨parent, hparent, hdirectory, rfl⟩
        | directory =>
          rw [leadsToDirectory_cons_iff.mpr ⟨parent, hparent, hdirectory, hentry⟩] at hmissing
          cases hmissing

omit hstart in
theorem makeDirectory_ne_notFound (h : t.leadsToDirectory start outer = true) :
    t.makeDirectory start segment outer ≠ .error .notFound := by
  obtain ⟨parent, hparent, hdirectory⟩ := leadsToDirectory_iff.mp h
  intro hmake
  rw [makeDirectory, hparent] at hmake
  obtain hmake | ⟨_, hwalk, hmake⟩ := Except.bind_eq_error_iff.mp hmake
  · cases hmake
  · cases hwalk
    rw [hdirectory] at hmake
    cases hentry : t.find? (step parent segment) with
    | none =>
      simp only [hentry] at hmake
      cases hmake
    | some entry =>
      simp only [hentry] at hmake
      cases hmake

theorem fileOn_of_makeDirectories {e : FileError}
    (h : t.makeDirectories start segments = (t', .error e)) : t'.FileOn start segments := by
  induction segments with
  | nil => cases h
  | cons segment outer ih =>
    have hfile {made : FileTree} {e' : FileError} (hmade : made.find? start = some .directory)
        (hmake : made.makeDirectory start segment outer = .error e') (he : e' ≠ .notFound)
        (h : (made, if made.leadsToDirectory start (segment :: outer) then .ok () else .error e') =
          (t', (.error e : Except FileError Unit))) : t'.FileOn start (segment :: outer) := by
      obtain ⟨rfl, herror⟩ := Prod.mk.inj h
      refine fileOn_of_makeDirectory hmade hmake he (Bool.eq_false_iff.mpr fun hthere ↦ ?_)
      rw [if_pos hthere] at herror
      cases herror
    rw [makeDirectories] at h
    split at h
    · cases h
    · split at h
      · rename_i houter
        cases h
        exact (ih houter).cons
      · rename_i houter
        split at h
        · cases h
        · rename_i hmake
          have hgrows : t.Grows _ fun _ ↦ False := (edited_makeDirectories t start outer).grows
          rw [houter] at hgrows
          refine hfile (hgrows.directories start hstart) hmake ?_ h
          rintro rfl
          exact makeDirectory_ne_notFound (leadsToDirectory_of_makeDirectories hstart houter) hmake
    · rename_i hfound hmake
      exact hfile hstart hmake hfound h

end Making

/-! ### Above a path -/

variable {p parent : FilePath}

/-- There is a directory at the end of the path, or a file on the way to it. -/
def Blocked (t : FileTree) (p : FilePath) : Prop :=
  t.isDirectory p = true ∨ ∃ q : FilePath, q.IsAncestor p ∧ t.isFile q = true

theorem blocked_of_createDirectories {e : FileError} (h : p.parent? = some parent)
    (herror : t.createDirectories parent = (t', .error e)) : t'.Blocked p := by
  obtain ⟨hne, hnames, habsolute⟩ := FilePath.eq_withNames_of_parent? h
  have hgrows : t.Grows (t.createDirectories parent).1 fun _ ↦ False :=
    (edited_createDirectories t parent).grows
  obtain rfl : (t.createDirectories parent).1 = t' := congrArg Prod.fst herror
  obtain ⟨place, content, hway, hfile⟩ :=
    fileOn_of_makeDirectories (t.find?_start parent) herror
  rw [hnames, ← hgrows.start, start_eq_of_isAbsolute_eq habsolute] at hway
  obtain ⟨q, hq, hplace⟩ := hway.above hne
  refine Or.inr ⟨q, hq, isFile_iff.mpr ⟨content, ?_⟩⟩
  exact lookup_eq_ok_iff.mpr ⟨place, hplace, hfile⟩

theorem directory_of_walk {place target : Place} {names : List String}
    (h : t.walk place names = .ok target) (htarget : t.find? target = some .directory) :
    t.find? place = some .directory := by
  cases names with
  | nil =>
    obtain rfl : place = target := Except.ok.inj h
    exact htarget
  | cons name rest => exact (walk_cons_eq_ok_iff.mp h).1

/-- Segments that are no names stay where they are, which has to be a directory. -/
theorem walk_of_walk_filter {place target : Place} {segments : List String}
    (h : t.walk place (segments.filter FilePath.isName) = .ok target)
    (htarget : t.find? target = some .directory) : t.walk place segments = .ok target := by
  induction segments generalizing place with
  | nil => exact h
  | cons segment rest ih =>
    by_cases hname : FilePath.isName segment = true
    · rw [List.filter_cons_of_pos hname] at h
      obtain ⟨hdirectory, hrest⟩ := walk_cons_eq_ok_iff.mp h
      exact walk_cons_eq_ok_iff.mpr ⟨hdirectory, ih hrest⟩
    · rw [List.filter_cons_of_neg hname] at h
      refine walk_cons_eq_ok_iff.mpr ⟨directory_of_walk h htarget, ?_⟩
      rw [step_eq_self hname]
      exact ih h

theorem exists_resolve_of_hasDirectory (h : p.parent? = some parent)
    (hparent : t.HasDirectory parent) {before : List String} {last : String}
    (hsegments : Text.segments '/' p.text = before ++ [last])
    (hlast : FilePath.isName last = true) : ∃ place, t.resolve p = .ok place := by
  obtain ⟨hne, hnames, habsolute⟩ := FilePath.eq_withNames_of_parent? h
  have htext : p.text ≠ "" := by
    intro hempty
    rw [FilePath.names, hempty] at hne
    exact hne (by decide)
  obtain ⟨place, hwalk, hplace⟩ := leadsToDirectory_iff.mp hparent
  have hbefore : parent.names = before.filter FilePath.isName := by
    rw [hnames, FilePath.names_eq_filter, hsegments, List.filter_append]
    simp [hlast]
  rw [List.reverse_reverse, hbefore, start_eq_of_isAbsolute_eq habsolute] at hwalk
  refine ⟨step place last, resolve_eq_ok_iff.mpr ⟨htext, ?_⟩⟩
  rw [hsegments, walk_append, walk_of_walk_filter hwalk hplace]
  exact walk_cons_eq_ok_iff.mpr ⟨hplace, rfl⟩

theorem blocked_of_writeText {s : String} {e : FileError} {place : Place}
    (hplace : t.resolve p = .ok place) (h : (t.writeText p s).2 = .error e) : t.Blocked p :=
  Or.inl ((writeText_of_error h).2.resolve_right fun hnone ↦ hnone place hplace)

end Jaxrs.FileTree
