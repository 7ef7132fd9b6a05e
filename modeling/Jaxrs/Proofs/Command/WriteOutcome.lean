import Jaxrs.Proofs.Command.Write
import Jaxrs.Proofs.FileTree.Blocking

/-!
Where writing sources ends. Whether or not a source can be written, no directories are made for it
but on the way to its path (`addsDirectories_makeParent`), and if it cannot, those are all that is
new (`makeParent_of_writeSource_error`) and something is in its way (`blocked_of_writeSource`). What
is there once some sources have been written (`Wrote`) is therefore still there when the next one
has failed (`Wrote.attempt`). `writesInOrder` says of every run where it ends.
-/

set_option autoImplicit false

namespace Jaxrs

variable {t t' t₁ : FileTree} {outputDir path : FilePath} {paths : List FilePath}
  {file : SourceFile} {files : List SourceFile}

/-! ### One source -/

theorem addsDirectories_makeParent {result : Except Failure Unit}
    (h : runOn t (makeParent path) = (result, t')) : t.AddsDirectories t' (t'.Above path) := by
  cases hparent : path.parent? with
  | none =>
    rw [makeParent, hparent] at h
    obtain rfl : t = t' := congrArg Prod.snd h
    exact .refl t
  | some parent =>
    rw [runOn_makeParent hparent] at h
    obtain rfl : (t.createDirectories parent).1 = t' := congrArg Prod.snd h
    exact FileTree.addsDirectories_createDirectories hparent

theorem addsDirectories_writeSource (h : runOn t (writeSource outputDir file) = (.ok path, t')) :
    t.AddsDirectories t' (t'.Above (outputDir.join file.path)) := by
  obtain ⟨_, t₁, hparent, h⟩ := runOn_bind_eq_ok_iff.mp h
  obtain ⟨_, t₂, htext, h⟩ := runOn_bind_eq_ok_iff.mp h
  obtain rfl : t₂ = t' := congrArg Prod.snd h
  rw [runOn_writeText] at htext
  obtain rfl := congrArg Prod.snd htext
  have hgrows := t₁.grows_writeText (outputDir.join file.path) file.content
  have hmade := (addsDirectories_makeParent hparent).mono fun _ ↦ hgrows.above
  exact hmade.trans (t₁.addsDirectories_writeText (outputDir.join file.path) file.content)

/-- A source that cannot be written changes nothing but that its directory may have been made. -/
theorem makeParent_of_writeSource_error {e : Failure}
    (h : runOn t (writeSource outputDir file) = (.error e, t')) :
    (∃ e', runOn t (makeParent (outputDir.join file.path)) = (.error e', t')) ∨
      runOn t (makeParent (outputDir.join file.path)) = (.ok (), t') ∧
        ∃ e', (t'.writeText (outputDir.join file.path) file.content).2 = .error e' := by
  rcases runOn_bind_eq_error_iff.mp h with hparent | ⟨_, t₁, hparent, h⟩
  · exact Or.inl ⟨e, hparent⟩
  · rcases runOn_bind_eq_error_iff.mp h with htext | ⟨_, _, _, hend⟩
    · rw [runOn_writeText] at htext
      obtain ⟨e', hwrite, _⟩ := Except.mapError_eq_error_iff.mp (congrArg Prod.fst htext)
      obtain rfl : t₁ = t' :=
        (FileTree.writeText_of_error hwrite).1.symm.trans (congrArg Prod.snd htext)
      exact Or.inr ⟨hparent, e', hwrite⟩
    · cases congrArg Prod.fst hend

theorem exists_parent_join (outputDir : FilePath) (hfile : file.path.Ordinary) :
    ∃ parent, (outputDir.join file.path).parent? = some parent := by
  have hnames : (outputDir.join file.path).names.isEmpty = false := by
    rw [FilePath.names_join outputDir hfile]
    simp [hfile.names_ne_nil]
  rw [FilePath.parent?, hnames]
  exact ⟨_, rfl⟩

/-- A source can be written unless something is in its way. -/
theorem blocked_of_writeSource {e : Failure} (hfile : file.path.Ordinary)
    (h : runOn t (writeSource outputDir file) = (.error e, t')) :
    t'.Blocked (outputDir.join file.path) := by
  obtain ⟨parent, hparent⟩ := exists_parent_join outputDir hfile
  rcases makeParent_of_writeSource_error h with ⟨e', hmade⟩ | ⟨hmade, e', htext⟩
  · rw [runOn_makeParent hparent] at hmade
    obtain ⟨e'', herror, _⟩ := Except.mapError_eq_error_iff.mp (congrArg Prod.fst hmade)
    exact FileTree.blocked_of_createDirectories hparent
      (Prod.ext (congrArg Prod.snd hmade) herror)
  · obtain ⟨before, last, hsegments, hlast⟩ := outputDir.exists_segments_join hfile
    obtain ⟨place, hplace⟩ := FileTree.exists_resolve_of_hasDirectory hparent
      (hasDirectory_of_makeParent hparent hmade) hsegments hlast
    exact FileTree.blocked_of_writeText hplace htext

theorem eq_join_of_writeSource (h : runOn t (writeSource outputDir file) = (.ok path, t')) :
    path = outputDir.join file.path := by
  obtain ⟨_, _, _, h⟩ := runOn_bind_eq_ok_iff.mp h
  obtain ⟨_, _, _, h⟩ := runOn_bind_eq_ok_iff.mp h
  exact (Except.ok.inj (congrArg Prod.fst h)).symm

/-! ### All sources -/

theorem eq_map_of_writeSources (h : runOn t (writeSources outputDir files) = (.ok paths, t')) :
    paths = files.map fun file ↦ outputDir.join file.path := by
  induction files generalizing t paths with
  | nil => exact (Except.ok.inj (congrArg Prod.fst h)).symm
  | cons file rest ih =>
    rw [writeSources, List.mapM_cons] at h
    obtain ⟨path, t₁, hfile, h⟩ := runOn_bind_eq_ok_iff.mp h
    obtain ⟨paths', t₂, hrest, h⟩ := runOn_bind_eq_ok_iff.mp h
    obtain rfl : t₂ = t' := congrArg Prod.snd h
    obtain rfl : path :: paths' = paths := Except.ok.inj (congrArg Prod.fst h)
    have hpaths : paths' = rest.map fun file ↦ outputDir.join file.path := ih hrest
    rw [eq_join_of_writeSource hfile, hpaths, List.map_cons]

theorem addsDirectories_writeSources
    (h : runOn t (writeSources outputDir files) = (.ok paths, t')) :
    t.AddsDirectories t' fun place ↦
      ∃ file ∈ files, t'.Above (outputDir.join file.path) place := by
  induction files generalizing t paths with
  | nil =>
    obtain rfl : t = t' := congrArg Prod.snd h
    exact .refl t
  | cons file rest ih =>
    rw [writeSources, List.mapM_cons] at h
    obtain ⟨_, t₁, hfile, h⟩ := runOn_bind_eq_ok_iff.mp h
    obtain ⟨_, t₂, hrest, h⟩ := runOn_bind_eq_ok_iff.mp h
    obtain rfl : t₂ = t' := congrArg Prod.snd h
    have hgrows := grows_writeSources hrest
    refine ((addsDirectories_writeSource hfile).mono ?_).trans ((ih hrest).mono ?_)
    · exact fun place habove ↦ ⟨file, List.mem_cons_self, hgrows.above habove⟩
    · rintro place ⟨f, hf, habove⟩
      exact ⟨f, List.mem_cons_of_mem file hf, habove⟩

/-- What the second tree is like once sources have been written to the first, and some more perhaps
attempted. A place is that of a written source if the path of one leads to it. -/
structure Wrote (outputDir : FilePath) (written attempted : List SourceFile) (t t' : FileTree) :
    Prop where
  /-- A path reads as the last source that has it. -/
  contents : ∀ before file after, written = before ++ file :: after →
    (∀ later ∈ after, later.path ≠ file.path) →
      t'.readText (outputDir.join file.path) = .ok file.content
  files : ∀ place content,
    (∀ file ∈ written, t'.resolve (outputDir.join file.path) ≠ .ok place) →
      (t'.find? place = some (.file content) ↔ t.find? place = some (.file content))
  directories : ∀ place, t.find? place = some .directory → t'.find? place = some .directory
  made : ∀ place, t'.find? place = some .directory →
    t.find? place = some .directory ∨
      ∃ file ∈ attempted, t'.Above (outputDir.join file.path) place

theorem wrote_of_writeSources (hordinary : ∀ f ∈ files, f.path.Ordinary)
    (h : runOn t (writeSources outputDir files) = (.ok paths, t')) :
    Wrote outputDir files files t t' where
  contents := by
    rintro before file after rfl hlast
    exact readText_of_writeSources hordinary hlast h
  files place content hplace := by
    refine (grows_writeSources h).find?_file_iff ?_
    rintro ⟨file, hfile, hresolve⟩
    exact hplace file hfile hresolve
  directories := (grows_writeSources h).directories
  made := addsDirectories_writeSources h

/-- Another source that cannot be written takes nothing away. -/
theorem Wrote.attempt {e : Failure} (h : Wrote outputDir files files t t₁)
    (hfile : runOn t₁ (writeSource outputDir file) = (.error e, t')) :
    Wrote outputDir files (files ++ [file]) t t' := by
  obtain ⟨result, hparent⟩ :
      ∃ result, runOn t₁ (makeParent (outputDir.join file.path)) = (result, t') := by
    rcases makeParent_of_writeSource_error hfile with ⟨e', hmade⟩ | ⟨hmade, _⟩
    · exact ⟨.error e', hmade⟩
    · exact ⟨.ok (), hmade⟩
  have hgrows : t₁.Grows t' fun _ ↦ False := (edited_makeParent hparent).grows
  refine ⟨fun before f after hsplit hlast ↦ ?_, fun place content hplace ↦ ?_,
    fun place hplace ↦ hgrows.directories place (h.directories place hplace),
    fun place hplace ↦ ?_⟩
  · exact hgrows.readText (h.contents before f after hsplit hlast)
  · rw [hgrows.find?_file_iff not_false]
    exact h.files place content fun f hf hresolve ↦ hplace f hf (hgrows.resolve hresolve)
  · rcases addsDirectories_makeParent hparent place hplace with hbefore | habove
    · refine (h.made place hbefore).imp_right ?_
      rintro ⟨f, hf, habove⟩
      exact ⟨f, List.mem_append_left _ hf, hgrows.above habove⟩
    · exact Or.inr ⟨file, by simp, habove⟩

/-- A source whose path none of the written ones has is not among the files that change. -/
theorem Wrote.later {written attempted : List SourceFile} {later : SourceFile}
    (h : Wrote outputDir written attempted t t') (hordinary : ∀ f ∈ written, f.path.Ordinary)
    (hlater : later.path.Ordinary) (hpath : ∀ f ∈ written, f.path ≠ later.path) {place : Place}
    (hplace : t'.resolve (outputDir.join later.path) = .ok place) (content : Content) :
    t'.find? place = some (.file content) ↔ t.find? place = some (.file content) := by
  refine h.files place content fun f hf hresolve ↦ hpath f hf ?_
  exact FileTree.resolve_join_injective (hordinary f hf) hlater hresolve hplace

/-- The sources before a source are written, and that one fails. -/
structure StopsAt (outputDir : FilePath) (before : List SourceFile) (file : SourceFile)
    (after : List SourceFile) (e : Failure) (t t' : FileTree) : Prop where
  fails : ∃ t₁, runOn t (writeSources outputDir before) =
      (.ok (before.map fun f ↦ outputDir.join f.path), t₁) ∧
    runOn t₁ (writeSource outputDir file) = (.error e, t')
  blocked : t'.Blocked (outputDir.join file.path)
  wrote : Wrote outputDir before (before ++ [file]) t t'
  /-- Paths of later sources only have the files that they had. -/
  later : ∀ later ∈ file :: after, (∀ f ∈ before, f.path ≠ later.path) →
    ∀ place content, t'.resolve (outputDir.join later.path) = .ok place →
      (t'.find? place = some (.file content) ↔ t.find? place = some (.file content))

/-- Where a run ends that writes sources one after the other. -/
structure WritesInOrder (outputDir : FilePath) (files : List SourceFile) (t : FileTree) : Prop where
  success : ∀ paths t', runOn t (writeSources outputDir files) = (.ok paths, t') →
    (paths = files.map fun file ↦ outputDir.join file.path) ∧ Wrote outputDir files files t t'
  failure : ∀ e t', runOn t (writeSources outputDir files) = (.error e, t') →
    ∃ before file after, files = before ++ file :: after ∧
      StopsAt outputDir before file after e t t'

/-- Sources are written one after the other until one of them has something in its way. Their files
are the only ones that change, whether or not all of them are written, and directories are only
added. -/
theorem writesInOrder (outputDir : FilePath) (t : FileTree)
    (hordinary : ∀ f ∈ files, f.path.Ordinary) : WritesInOrder outputDir files t where
  success paths t' h := ⟨eq_map_of_writeSources h, wrote_of_writeSources hordinary h⟩
  failure e t' h := by
    obtain ⟨before, file, after, paths, t₁, rfl, hbefore, hfile⟩ := exists_of_runOn_mapM_eq_error h
    have hwritten : ∀ f ∈ before, f.path.Ordinary :=
      fun f hf ↦ hordinary f (List.mem_append_left _ hf)
    have hwrote := (wrote_of_writeSources hwritten hbefore).attempt hfile
    refine ⟨before, file, after, rfl, ⟨t₁, ?_, hfile⟩, ?_, hwrote, ?_⟩
    · rw [← eq_map_of_writeSources hbefore]
      exact hbefore
    · exact blocked_of_writeSource (hordinary file (by simp)) hfile
    · intro later hlater hpath place content hplace
      exact hwrote.later hwritten (hordinary later (List.mem_append_right _ hlater)) hpath hplace
        content

/-- A tree with a file where a directory for sources is needed. -/
def takenTree : FileTree where
  entries := [(["home"], .directory), (["out"], .directory),
    (["out", "b"], .file (.text "taken")), (["out", "C.java"], .file (.text "old"))]
  workingDirectory := ["home"]

/-- A path twice, one that the tree has no room for, and one that it has. -/
def takenSources : List SourceFile :=
  [{ qualifiedName := "a.A", path := ⟨"a/A.java"⟩, content := "first" },
    { qualifiedName := "a.A", path := ⟨"a/A.java"⟩, content := "second" },
    { qualifiedName := "b.B", path := ⟨"b/B.java"⟩, content := "" },
    { qualifiedName := "C", path := ⟨"C.java"⟩, content := "" }]

theorem writesInOrder_taken : (∀ f ∈ takenSources, f.path.Ordinary) ∧
    ∃ before file after t', takenSources = before ++ file :: after ∧
      runOn takenTree (writeSources ⟨"/out"⟩ takenSources) = (.error (.io .alreadyExists), t') ∧
      StopsAt ⟨"/out"⟩ before file after (.io .alreadyExists) takenTree t' := by
  have hordinary : ∀ f ∈ takenSources, f.path.Ordinary := by
    unfold takenSources FilePath.Ordinary
    decide
  have hrun : runOn takenTree (writeSources ⟨"/out"⟩ takenSources) =
      (.error (.io .alreadyExists), (runOn takenTree (writeSources ⟨"/out"⟩ takenSources)).2) := rfl
  obtain ⟨before, file, after, hsplit, hstops⟩ :=
    (writesInOrder ⟨"/out"⟩ takenTree hordinary).failure _ _ hrun
  exact ⟨hordinary, before, file, after, _, hsplit, hrun, hstops⟩

end Jaxrs
