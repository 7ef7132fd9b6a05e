import Jaxrs.Generation
import Jaxrs.Proofs.Synthesis

/-!
What comes of a generation. Settings that are not valid fail before anything else; then the
resources are generated in their order, and the first one that cannot be is the failure of all
(`generate_eq_error_iff`). `generate_jaxrs` is the main statement, for JAX-RS in either edition: it
puts the failure of a run down to the settings and the resources themselves.
-/

set_option autoImplicit false

namespace Jaxrs

variable {s : Settings} {framework : Framework} {render : String → String} {api : Api}
  {r : Resource} {files : List SourceFile} {e : Failure}

theorem Interface.exists_sourceFile_eq_ok_iff {f : Formatter} {i : Interface} :
    (∃ file, i.sourceFile framework f = .ok file) ↔ i.WellFormed framework := by
  simp only [sourceFile, Except.bind_eq_ok_iff, Except.mapError_eq_ok_iff, render_eq_ok_iff]
  constructor
  · rintro ⟨_, _, ⟨hvalid, _⟩, _⟩
    exact hvalid
  · intro hvalid
    exact ⟨_, _, ⟨hvalid, rfl⟩, rfl⟩

namespace Settings

theorem exists_generateResource_eq_ok_iff (hframework : framework.Named) :
    (∃ file, s.generateResource framework render api r = .ok file) ↔ r.Generable s := by
  rw [← Resource.exists_wellFormed_iff hframework]
  constructor
  · rintro ⟨file, h⟩
    obtain ⟨i, hi, hfile⟩ := Except.bind_eq_ok_iff.mp h
    exact ⟨i, hi, Interface.exists_sourceFile_eq_ok_iff.mp ⟨file, hfile⟩⟩
  · rintro ⟨i, hi, hvalid⟩
    obtain ⟨file, hfile⟩ := Interface.exists_sourceFile_eq_ok_iff.mpr hvalid
    exact ⟨file, Except.bind_eq_ok_iff.mpr ⟨i, hi, hfile⟩⟩

/-- One file for each resource, in their order. -/
theorem generate_eq_ok_iff : s.generate framework render api = .ok files ↔
    s.validate = .ok () ∧
      List.Forall₂ (fun r file ↦ s.generateResource framework render api r = .ok file)
        api.resources files := by
  rw [generate, Except.bind_eq_ok_iff]
  simp only [Except.mapError_eq_ok_iff, Except.mapM_eq_ok_iff]
  constructor
  · rintro ⟨_, hvalid, hfiles⟩
    exact ⟨hvalid, hfiles⟩
  · rintro ⟨hvalid, hfiles⟩
    exact ⟨(), hvalid, hfiles⟩

theorem exists_generate_eq_ok_iff (hframework : framework.Named) :
    (∃ files, s.generate framework render api = .ok files) ↔
      s.validate = .ok () ∧ ∀ r ∈ api.resources, r.Generable s := by
  simp only [generate_eq_ok_iff, ← Except.mapM_eq_ok_iff, exists_and_left,
    Except.exists_mapM_eq_ok_iff, exists_generateResource_eq_ok_iff hframework]

/-- The failure of the settings, or else of the first resource that has one. -/
theorem generate_eq_error_iff (hframework : framework.Named) :
    s.generate framework render api = .error e ↔
      (∃ cause, s.validate = .error cause ∧ e = .config cause) ∨
        s.validate = .ok () ∧ ∃ before r after, api.resources = before ++ r :: after ∧
          (∀ earlier ∈ before, earlier.Generable s) ∧ ¬ r.Generable s ∧
          s.generateResource framework render api r = .error e := by
  rw [generate, Except.bind_eq_error_iff]
  simp only [Except.mapError_eq_ok_iff, Except.mapError_eq_error_iff, Except.mapM_eq_error_iff,
    exists_generateResource_eq_ok_iff hframework]
  constructor
  · rintro (⟨cause, hcause, rfl⟩ | ⟨_, hvalid, before, r, after, hsplit, hbefore, hr⟩)
    · exact Or.inl ⟨cause, hcause, rfl⟩
    · refine Or.inr ⟨hvalid, before, r, after, hsplit, hbefore, ?_, hr⟩
      intro hgenerable
      obtain ⟨file, hfile⟩ := (exists_generateResource_eq_ok_iff hframework).mpr hgenerable
      rw [hr] at hfile
      cases hfile
  · rintro (⟨cause, hcause, rfl⟩ | ⟨hvalid, before, r, after, hsplit, hbefore, _, hr⟩)
    · exact Or.inl ⟨cause, hcause, rfl⟩
    · exact Or.inr ⟨(), hvalid, before, r, after, hsplit, hbefore, hr⟩

/-- A generation succeeds exactly if its settings are valid and all of its resources are generable,
and then it has one file for each of them. It fails as the settings do, or else as the first
resource that is not generable. -/
theorem generate_jaxrs (s : Settings) (edition : Edition) (render : String → String) (api : Api) :
    ((∃ files, s.generate (.jaxrs edition) render api = .ok files) ↔
        s.validate = .ok () ∧ ∀ r ∈ api.resources, r.Generable s) ∧
      (∀ files, s.generate (.jaxrs edition) render api = .ok files ↔
        s.validate = .ok () ∧
          List.Forall₂ (fun r file ↦ s.generateResource (.jaxrs edition) render api r = .ok file)
            api.resources files) ∧
      ∀ e, s.generate (.jaxrs edition) render api = .error e ↔
        (∃ cause, s.validate = .error cause ∧ e = .config cause) ∨
          s.validate = .ok () ∧ ∃ before r after, api.resources = before ++ r :: after ∧
            (∀ earlier ∈ before, earlier.Generable s) ∧ ¬ r.Generable s ∧
            s.generateResource (.jaxrs edition) render api r = .error e := by
  have hframework := Framework.jaxrs_named edition
  refine ⟨exists_generate_eq_ok_iff hframework, fun files ↦ generate_eq_ok_iff, fun e ↦ ?_⟩
  exact generate_eq_error_iff hframework

end Settings

end Jaxrs
