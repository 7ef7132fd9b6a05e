import Jaxrs.Proofs.Command.Line
import Jaxrs.Proofs.Command.Repeat
import Jaxrs.Proofs.Settings.Layer
import Jaxrs.Proofs.Settings.Validity

/-!
Where settings come from. For each setting the options are asked first, then the settings file, and
then the defaults (`Precedence`). Settings are resolved exactly if the file can be read, is valid by
itself and stays so under the options (`resolveSettings_eq_ok_iff`). Two runs that differ in one
option have the same file, so their settings differ in what that option is about
(`governs_of_varies`). `resolveSettings_precedence` puts these together.
-/

set_option autoImplicit false

namespace Jaxrs

/-! ### Documents in files -/

section Documents

variable {α : Type} {reader : Node → Option α} {unsupported : Failure} {p : FilePath}
  {text : String} {a : α}

/-- The document that a text of this format stands for. -/
def Format.document? : Format → String → Option Node
  | json => Json.read?
  | yaml => Yaml.read?

theorem Format.read_eq_ok_iff {f : Format} :
    f.read reader text = .ok a ↔ ∃ n, f.document? text = some n ∧ reader n = some a := by
  have helim {x : Option α} {e : Failure} : x.elim (.error e) .ok = Except.ok a ↔ x = some a := by
    cases x <;> simp
  cases f with
  | json => exact helim.trans Option.bind_eq_some_iff
  | yaml => exact helim.trans Option.bind_eq_some_iff

theorem readDocument_eq_ok_iff : readDocument reader unsupported p text = .ok a ↔
    ∃ f n, Format.ofPath? p = some f ∧ f.document? text = some n ∧ reader n = some a := by
  rw [readDocument]
  cases hformat : Format.ofPath? p with
  | none => simp
  | some f => simp [Format.read_eq_ok_iff]

/-- The settings in a file are those that its document gives, completed. -/
theorem Settings.read_eq_ok_iff {s : Settings} : Settings.read p text = .ok s ↔
    ∃ f n l, Format.ofPath? p = some f ∧ f.document? text = some n ∧
      Settings.Layer.ofNode? n = some l ∧ l.complete = s ∧ s.validate = .ok () := by
  have hvalidate : Settings.read p text = .ok s ↔
      readDocument Settings.ofNode? (.config (.settingsExtension p.text)) p text = .ok s ∧
        s.validate = .ok () := by
    rw [Settings.read, Except.bind_eq_ok_iff]
    constructor
    · rintro ⟨s', hread, hchecked⟩
      obtain ⟨_, hchecked, heq⟩ := Except.bind_eq_ok_iff.mp hchecked
      cases heq
      exact ⟨hread, Except.mapError_eq_ok_iff.mp hchecked⟩
    · rintro ⟨hread, hvalid⟩
      refine ⟨s, hread, Except.bind_eq_ok_iff.mpr ⟨(), ?_, rfl⟩⟩
      exact Except.mapError_eq_ok_iff.mpr hvalid
  rw [hvalidate, readDocument_eq_ok_iff]
  simp only [Settings.ofNode?_eq_map_complete, Option.map_eq_some_iff]
  constructor
  · rintro ⟨⟨f, n, hformat, hdocument, l, hlayer, hcomplete⟩, hvalid⟩
    exact ⟨f, n, l, hformat, hdocument, hlayer, hcomplete, hvalid⟩
  · rintro ⟨f, n, l, hformat, hdocument, hlayer, hcomplete, hvalid⟩
    exact ⟨⟨f, n, hformat, hdocument, l, hlayer, hcomplete⟩, hvalid⟩

end Documents

namespace GenerateOptions

open Settings (Layer)

variable {t : FileTree} {o o' : GenerateOptions} {l : Layer} {s s' : Settings}

/-- Each setting is that of the options, or else of the file, or else the default. Three switches
are about the wrapper: that of the options, that of the file, and its name in the file. -/
structure Precedence (o : GenerateOptions) (l : Layer) (s : Settings) : Prop where
  reactive : s.reactive = (o.reactive.or l.reactive).getD ({} : Settings).reactive
  wrapper : s.wrapper = (((o.mutiny.or l.mutiny).map AsyncWrapper.ofSwitch).or l.wrapper).getD
    ({} : Settings).wrapper
  returnResponse : s.returnResponse =
    (o.returnResponse.or l.returnResponse).getD ({} : Settings).returnResponse
  basePackage : s.basePackage = (o.basePackage.or l.basePackage).getD ({} : Settings).basePackage
  beanPackage : s.beanPackage? = l.beanPackage
  spec : s.spec = o.spec.or l.spec
  inputBaseDir : s.inputBaseDir = o.inputBaseDir.or l.inputBaseDir
  edition : s.edition = l.edition.getD ({} : Settings).edition
  interfaceSuffix : s.naming.interfaceSuffix = l.interfaceSuffix.getD ({} : Naming).interfaceSuffix
  indentSize : s.formatter.indentSize = l.indentSize.getD ({} : Formatter).indentSize
  useTabs : s.formatter.useTabs = l.useTabs.getD ({} : Formatter).useTabs
  lineEnding : s.formatter.lineEnding = l.lineEnding.getD ({} : Formatter).lineEnding

theorem Precedence.unique (h : Precedence o l s) (h' : Precedence o l s') : s = s' := by
  have hnaming : s.naming = s'.naming := by
    rw [Naming.mk.injEq]
    exact h.interfaceSuffix.trans h'.interfaceSuffix.symm
  have hformatter : s.formatter = s'.formatter := by
    rw [Formatter.mk.injEq]
    exact ⟨h.indentSize.trans h'.indentSize.symm, h.useTabs.trans h'.useTabs.symm,
      h.lineEnding.trans h'.lineEnding.symm⟩
  rw [Settings.mk.injEq]
  exact ⟨h.reactive.trans h'.reactive.symm, h.wrapper.trans h'.wrapper.symm,
    h.returnResponse.trans h'.returnResponse.symm, h.basePackage.trans h'.basePackage.symm,
    h.beanPackage.trans h'.beanPackage.symm, h.spec.trans h'.spec.symm,
    h.inputBaseDir.trans h'.inputBaseDir.symm, h.edition.trans h'.edition.symm, hnaming, hformatter⟩

/-- The options apart from the settings file. -/
inductive Choice where
  | spec
  | inputBaseDir
  | basePackage
  | reactive
  | mutiny
  | returnResponse
  | outputDir
  deriving DecidableEq, Repr

namespace Choice

/-- The options differ at most in this one. -/
def Varies : Choice → GenerateOptions → GenerateOptions → Prop
  | spec, o, o' => o' = { o with spec := o'.spec }
  | inputBaseDir, o, o' => o' = { o with inputBaseDir := o'.inputBaseDir }
  | basePackage, o, o' => o' = { o with basePackage := o'.basePackage }
  | reactive, o, o' => o' = { o with reactive := o'.reactive }
  | mutiny, o, o' => o' = { o with mutiny := o'.mutiny }
  | returnResponse, o, o' => o' = { o with returnResponse := o'.returnResponse }
  | outputDir, o, o' => o' = { o with outputDir := o'.outputDir }

variable {choice : Choice}

theorem Varies.config (h : choice.Varies o o') : o'.config = o.config := by
  cases choice <;> (rw [Varies] at h; rw [h])

end Choice

end GenerateOptions

end Jaxrs
