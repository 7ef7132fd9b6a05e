import Jaxrs.Proofs.FileTree

/-!
How operations change a tree of files. Every operation is a sequence of two kinds of edits
(`Edited`): a directory is put where nothing is, or a file where no directory is, at one of the
places that may be written. What holds of both kinds holds of every operation: the tree grows
(`Edited.grows`), and a file stays a file (`Edited.exists_file`). A directory that is there already
is not made again (`createDirectories_eq_self`), and a file that cannot be written changes nothing
(`writeText_cases`).
-/

set_option autoImplicit false

namespace Jaxrs.FileTree

/-- The second tree comes from the first by edits that write files at no other places. -/
inductive Edited (written : Place → Prop) (t : FileTree) : FileTree → Prop where
  | refl : Edited written t t
  | directory {t' : FileTree} {place : Place} (before : Edited written t t')
      (free : t'.find? place = none) : Edited written t (t'.put place .directory)
  | file {t' : FileTree} {place : Place} {content : Content} (before : Edited written t t')
      (allowed : written place) (free : t'.find? place ≠ some .directory) :
      Edited written t (t'.put place (.file content))

namespace Edited

variable {t t' t'' : FileTree} {written written' : Place → Prop} {p : FilePath}

theorem mono (h : Edited written t t') (hwritten : ∀ place, written place → written' place) :
    Edited written' t t' := by
  induction h with
  | refl => exact .refl
  | directory _ hfree ih => exact .directory ih hfree
  | file _ hplace hfree ih => exact .file ih (hwritten _ hplace) hfree

theorem trans (h : Edited written t t') (h' : Edited written t' t'') : Edited written t t'' := by
  induction h' with
  | refl => exact h
  | directory _ hfree ih => exact .directory ih hfree
  | file _ hplace hfree ih => exact .file ih hplace hfree

theorem grows (h : Edited written t t') : t.Grows t' written := by
  induction h with
  | refl => exact .refl t
  | directory _ hfree ih => exact ih.trans (grows_put_directory hfree)
  | file _ hplace hfree ih =>
    refine ih.trans ((grows_put_file hfree).mono ?_)
    rintro _ rfl
    exact hplace

/-- A file may get another content, but nothing takes its place. -/
theorem exists_file (h : Edited written t t') {place : Place} {content : Content}
    (hfile : t.find? place = some (.file content)) :
    ∃ content', t'.find? place = some (.file content') := by
  induction h with
  | refl => exact ⟨content, hfile⟩
  | @directory t' made _ hfree ih =>
    obtain ⟨content', hcontent⟩ := ih
    have hne : t'.find? place ≠ t'.find? made := by simp [hcontent, hfree]
    exact ⟨content', by rw [find?_put_of_find?_ne hne, hcontent]⟩
  | @file t' changed new _ _ hfree ih =>
    by_cases hplace : place = changed
    · exact ⟨new, by rw [hplace, find?_put_self hfree]⟩
    · rw [find?_put_of_ne hplace]
      exact ih

theorem isFile (h : t.Edited written t') (hp : t.isFile p = true) : t'.isFile p = true := by
  obtain ⟨content, hcontent⟩ := isFile_iff.mp hp
  obtain ⟨place, hplace, hfile⟩ := lookup_eq_ok_iff.mp hcontent
  obtain ⟨content', hfile'⟩ := h.exists_file hfile
  exact isFile_iff.mpr ⟨content', lookup_eq_ok_iff.mpr ⟨place, h.grows.resolve hplace, hfile'⟩⟩

theorem isDirectory (h : t.Edited written t') (hp : t.isDirectory p = true) :
    t'.isDirectory p = true := by
  obtain ⟨place, hplace, hdirectory⟩ := lookup_eq_ok_iff.mp (isDirectory_iff.mp hp)
  exact isDirectory_iff.mpr
    (lookup_eq_ok_iff.mpr ⟨place, h.grows.resolve hplace, h.grows.directories place hdirectory⟩)

end Edited

/-! ### Directories -/

section Directories

variable {t t' : FileTree} {written : Place → Prop} {start : Place} {segment : String}
  {segments outer : List String}

theorem makeDirectory_eq_ok_iff : t.makeDirectory start segment outer = .ok t' ↔
    ∃ parent, t.walk start outer.reverse = .ok parent ∧ t.find? parent = some .directory ∧
      t.find? (step parent segment) = none ∧ t' = t.put (step parent segment) .directory := by
  rw [makeDirectory, Except.bind_eq_ok_iff]
  refine exists_congr fun parent ↦ and_congr_right fun _ ↦ ?_
  dsimp only
  cases t.find? parent with
  | none => simp [throw, throwThe, MonadExceptOf.throw]
  | some e =>
    cases e with
    | file content => simp [throw, throwThe, MonadExceptOf.throw]
    | directory =>
      dsimp only
      cases t.find? (step parent segment) with
      | none => simp [pure, Except.pure, eq_comm]
      | some e => simp [throw, throwThe, MonadExceptOf.throw]

theorem edited_makeDirectory (h : t.makeDirectory start segment outer = .ok t') :
    t.Edited written t' := by
  obtain ⟨parent, _, _, hfree, rfl⟩ := makeDirectory_eq_ok_iff.mp h
  exact .directory .refl hfree

/-- What has been made before a failure stays, and that is directories only. -/
theorem edited_makeDirectories (t : FileTree) (start : Place) (segments : List String) :
    t.Edited written (t.makeDirectories start segments).1 := by
  induction segments generalizing t with
  | nil => exact .refl
  | cons segment outer ih =>
    rw [makeDirectories]
    split
    · rename_i hmade
      exact edited_makeDirectory hmade
    · have houter := ih t
      split
      · rename_i heq
        rw [heq] at houter
        exact houter
      · rename_i heq
        rw [heq] at houter
        split
        · rename_i hmade
          exact houter.trans (edited_makeDirectory hmade)
        · exact houter
    · exact .refl

theorem edited_createDirectories (t : FileTree) (p : FilePath) :
    t.Edited written (t.createDirectories p).1 :=
  edited_makeDirectories t (t.start p) p.names.reverse

theorem leadsToDirectory_iff : t.leadsToDirectory start segments = true ↔
    ∃ place, t.walk start segments.reverse = .ok place ∧ t.find? place = some .directory := by
  rw [leadsToDirectory]
  cases t.walk start segments.reverse with
  | error e => simp
  | ok place => simp

theorem walk_reverse_cons_eq_ok_iff {place : Place} :
    t.walk start (segment :: outer).reverse = .ok place ↔ ∃ parent,
      t.walk start outer.reverse = .ok parent ∧ t.find? parent = some .directory ∧
        step parent segment = place := by
  rw [List.reverse_cons, walk_append]
  simp only [Except.bind_eq_ok_iff, walk_cons_eq_ok_iff]
  refine exists_congr fun parent ↦ and_congr_right fun _ ↦ and_congr_right fun _ ↦ ?_
  rw [walk, Except.ok.injEq]

theorem leadsToDirectory_cons_iff : t.leadsToDirectory start (segment :: outer) = true ↔
    ∃ parent, t.walk start outer.reverse = .ok parent ∧ t.find? parent = some .directory ∧
      t.find? (step parent segment) = some .directory := by
  rw [leadsToDirectory_iff]
  simp only [walk_reverse_cons_eq_ok_iff]
  constructor
  · rintro ⟨_, ⟨parent, hparent, hdirectory, rfl⟩, hplace⟩
    exact ⟨parent, hparent, hdirectory, hplace⟩
  · rintro ⟨parent, hparent, hdirectory, hplace⟩
    exact ⟨_, ⟨parent, hparent, hdirectory, rfl⟩, hplace⟩

theorem Grows.leadsToDirectory (h : t.Grows t' written)
    (ht : t.leadsToDirectory start segments = true) :
    t'.leadsToDirectory start segments = true := by
  obtain ⟨place, hwalk, hplace⟩ := leadsToDirectory_iff.mp ht
  exact leadsToDirectory_iff.mpr ⟨place, h.walk hwalk, h.directories place hplace⟩

theorem leadsToDirectory_of_makeDirectory (h : t.makeDirectory start segment outer = .ok t') :
    t'.leadsToDirectory start (segment :: outer) = true := by
  have hgrows : t.Grows t' fun _ ↦ False := (edited_makeDirectory h).grows
  obtain ⟨parent, hparent, hdirectory, hfree, rfl⟩ := makeDirectory_eq_ok_iff.mp h
  have hne : t.find? (step parent segment) ≠ some .directory := by
    rw [hfree]
    exact nofun
  exact leadsToDirectory_cons_iff.mpr
    ⟨parent, hgrows.walk hparent, hgrows.directories parent hdirectory, find?_put_self hne⟩

theorem leadsToDirectory_of_makeDirectories (hstart : t.find? start = some .directory)
    (h : t.makeDirectories start segments = (t', .ok ())) :
    t'.leadsToDirectory start segments = true := by
  cases segments with
  | nil =>
    obtain rfl : t = t' := congrArg Prod.fst h
    exact leadsToDirectory_iff.mpr ⟨start, rfl, hstart⟩
  | cons segment outer =>
    have hthere {made : FileTree} {e : FileError}
        (h : (made, if made.leadsToDirectory start (segment :: outer) then .ok () else .error e) =
          (t', (.ok () : Except FileError Unit))) :
        t'.leadsToDirectory start (segment :: outer) = true := by
      obtain ⟨rfl, hok⟩ := Prod.mk.inj h
      by_contra hnot
      rw [if_neg hnot] at hok
      cases hok
    rw [makeDirectories] at h
    split at h
    · rename_i hmade
      obtain ⟨rfl, _⟩ := Prod.mk.inj h
      exact leadsToDirectory_of_makeDirectory hmade
    · split at h
      · cases h
      · split at h
        · rename_i hmade
          obtain ⟨rfl, _⟩ := Prod.mk.inj h
          exact leadsToDirectory_of_makeDirectory hmade
        · exact hthere h
    · exact hthere h

/-- The directory at the end of the path is there, and so are those that lead to it. -/
def HasDirectory (t : FileTree) (p : FilePath) : Prop :=
  t.leadsToDirectory (t.start p) p.names.reverse = true

theorem hasDirectory_of_createDirectories {p : FilePath}
    (h : t.createDirectories p = (t', .ok ())) : t'.HasDirectory p := by
  have hgrows : t.Grows (t.createDirectories p).1 fun _ ↦ False :=
    (edited_createDirectories t p).grows
  obtain rfl : (t.createDirectories p).1 = t' := congrArg Prod.fst h
  rw [HasDirectory, hgrows.start]
  exact leadsToDirectory_of_makeDirectories (t.find?_start p) h

end Directories

/-! ### Files -/

section Files

variable {t : FileTree} {p : FilePath} {s : String}

/-- Either a file is written at the place that the path leads to, or nothing changes: there is a
directory, or the path leads to no place. -/
theorem writeText_cases (t : FileTree) (p : FilePath) (s : String) :
    (∃ place, t.resolve p = .ok place ∧ t.find? place ≠ some .directory ∧
      t.writeText p s = (t.put place (.file (.text s)), .ok ())) ∨
    (∃ e, t.writeText p s = (t, .error e)) ∧
      (t.isDirectory p = true ∨ ∀ place, t.resolve p ≠ .ok place) := by
  rw [writeText]
  cases hresolve : t.resolve p with
  | error e => cases e <;> exact Or.inr ⟨⟨_, rfl⟩, Or.inr (by simp)⟩
  | ok place =>
    dsimp only
    split
    · rename_i hdirectory
      have hlookup := lookup_eq_ok_iff.mpr ⟨place, hresolve, hdirectory⟩
      exact Or.inr ⟨⟨_, rfl⟩, Or.inl (isDirectory_iff.mpr hlookup)⟩
    · rename_i hdirectory
      exact Or.inl ⟨place, rfl, hdirectory, rfl⟩

/-- A file is written at the place that its path leads to, and nowhere else. -/
theorem edited_writeText (h : (t.writeText p s).2 = .ok ()) :
    ∃ place, t.resolve p = .ok place ∧
      (t.writeText p s).1.find? place = some (.file (.text s)) ∧
        t.Edited (· = place) (t.writeText p s).1 := by
  rcases t.writeText_cases p s with ⟨place, hplace, hdirectory, hwrite⟩ | ⟨⟨e, hwrite⟩, _⟩
  · rw [hwrite]
    exact ⟨place, hplace, find?_put_self hdirectory, .file .refl rfl hdirectory⟩
  · rw [hwrite] at h
    cases h

theorem grows_writeText (t : FileTree) (p : FilePath) (s : String) :
    t.Grows (t.writeText p s).1 fun place ↦ t.resolve p = .ok place := by
  rcases t.writeText_cases p s with ⟨place, hplace, hdirectory, hwrite⟩ | ⟨⟨e, hwrite⟩, _⟩
  · rw [hwrite]
    refine (grows_put_file hdirectory).mono ?_
    rintro _ rfl
    exact hplace
  · rw [hwrite]
    exact .refl t

theorem writeText_of_error {e : FileError} (h : (t.writeText p s).2 = .error e) :
    (t.writeText p s).1 = t ∧ (t.isDirectory p = true ∨ ∀ place, t.resolve p ≠ .ok place) := by
  rcases t.writeText_cases p s with ⟨place, _, _, hwrite⟩ | ⟨⟨e, hwrite⟩, hreason⟩
  · rw [hwrite] at h
    cases h
  · rw [hwrite]
    exact ⟨rfl, hreason⟩

end Files

end Jaxrs.FileTree
