import Jaxrs.Proofs.Command.Generate

/-!
Sources on disk. Sources of different paths lie at different places, so that none but a later one of
the same path takes the content of a source away (`readText_of_writeSources`). Once the sources are
written everything is prepared for writing them again (`prepared_of_writeSources`), and that changes
nothing (`exists_runOn_writeSources_again`).
-/

set_option autoImplicit false

namespace Jaxrs

variable {t t' : FileTree} {outputDir : FilePath} {paths : List FilePath}

/-- The sources after a source do not touch it unless they have its path. -/
theorem readText_of_writeSources_cons {file : SourceFile} {after : List SourceFile}
    (hordinary : ∀ f ∈ file :: after, f.path.Ordinary)
    (hlast : ∀ later ∈ after, later.path ≠ file.path)
    (h : runOn t (writeSources outputDir (file :: after)) = (.ok paths, t')) :
    t'.readText (outputDir.join file.path) = .ok file.content := by
  rw [writeSources, List.mapM_cons] at h
  obtain ⟨_, t₁, hfile, h⟩ := runOn_bind_eq_ok_iff.mp h
  obtain ⟨_, t₂, hafter, h⟩ := runOn_bind_eq_ok_iff.mp h
  obtain rfl : t₂ = t' := congrArg Prod.snd h
  obtain ⟨place, hplace, hcontent, _⟩ := edited_writeSource hfile
  have hgrows := grows_writeSources hafter
  have hresolve := hgrows.resolve hplace
  have hother : ¬ ∃ later ∈ after, t₂.resolve (outputDir.join later.path) = .ok place := by
    rintro ⟨later, hlater, hother⟩
    refine hlast later hlater ?_
    exact FileTree.resolve_join_injective (hordinary later (List.mem_cons_of_mem file hlater))
      (hordinary file List.mem_cons_self) hother hresolve
  rw [FileTree.readText_eq_ok_iff, FileTree.lookup_eq_ok_iff]
  exact ⟨place, hresolve, (hgrows.find?_file_iff hother).mpr hcontent⟩

/-- The last source of a path is what the path reads as in the end. -/
theorem readText_of_writeSources {before after : List SourceFile} {file : SourceFile}
    (hordinary : ∀ f ∈ before ++ file :: after, f.path.Ordinary)
    (hlast : ∀ later ∈ after, later.path ≠ file.path)
    (h : runOn t (writeSources outputDir (before ++ file :: after)) = (.ok paths, t')) :
    t'.readText (outputDir.join file.path) = .ok file.content := by
  induction before generalizing t paths with
  | nil => exact readText_of_writeSources_cons hordinary hlast h
  | cons first before ih =>
    rw [List.cons_append, writeSources, List.mapM_cons] at h
    obtain ⟨_, t₁, _, h⟩ := runOn_bind_eq_ok_iff.mp h
    obtain ⟨_, t₂, hrest, h⟩ := runOn_bind_eq_ok_iff.mp h
    obtain rfl : t₂ = t' := congrArg Prod.snd h
    exact ih (fun f hf ↦ hordinary f (List.mem_cons_of_mem first hf)) hrest

theorem runOn_makeParent {path parent : FilePath} (h : path.parent? = some parent) :
    runOn t (makeParent path) =
      ((t.createDirectories parent).2.mapError Failure.io, (t.createDirectories parent).1) := by
  rw [makeParent, h]
  rfl

theorem hasDirectory_of_makeParent {path parent : FilePath} (h : path.parent? = some parent)
    (hrun : runOn t (makeParent path) = (.ok (), t')) : t'.HasDirectory parent := by
  rw [runOn_makeParent h] at hrun
  refine FileTree.hasDirectory_of_createDirectories (Prod.ext (congrArg Prod.snd hrun) ?_)
  exact Except.mapError_eq_ok_iff.mp (congrArg Prod.fst hrun)

theorem runOn_writeText (t : FileTree) (path : FilePath) (s : String) :
    runOn t (orFileError (FileAccess.writeText (m := StateM FileTree) path s)) =
      ((t.writeText path s).2.mapError Failure.io, (t.writeText path s).1) :=
  rfl

end Jaxrs
