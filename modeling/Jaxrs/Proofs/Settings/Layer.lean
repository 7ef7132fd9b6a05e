import Jaxrs.Proofs.Document.Record
import Jaxrs.Settings.Reading

/-!
What a settings document says. A layer has a value for each setting that the document gives and none
for the others; defaults come in only when a layer is completed. Settings are read from a document
by reading its layer and completing it (`ofNode?_eq_map_complete`), so that what is said of the
layer, setting by setting, is said of the settings.
-/

set_option autoImplicit false

namespace Jaxrs

namespace AsyncWrapper

/-- The wrapper that the `mutiny` switch stands for. -/
def ofSwitch (on : Bool) : AsyncWrapper :=
  if on then mutiny else completionStage

end AsyncWrapper

namespace Settings

/-- A value for each setting that is given. -/
structure Layer where
  mutiny : Option Bool := none
  reactive : Option Bool := none
  wrapper : Option AsyncWrapper := none
  returnResponse : Option Bool := none
  basePackage : Option String := none
  beanPackage : Option String := none
  spec : Option FilePath := none
  inputBaseDir : Option FilePath := none
  edition : Option Edition := none
  interfaceSuffix : Option String := none
  indentSize : Option Nat := none
  useTabs : Option Bool := none
  lineEnding : Option LineEnding := none
  deriving DecidableEq, Repr

namespace Layer

def ofFields? (fields : Fields) : Option Layer := do
  let mutiny ← fields.optional? "mutiny" Node.bool?
  let reactive ← fields.given? "reactive" Node.bool?
  let wrapper ← fields.given? "reactive-implementation" AsyncWrapper.ofNode?
  let returnResponse ← fields.given? "return-response" Node.bool?
  let basePackage ← fields.given? "base-package" Node.text?
  let beanPackage ← fields.optional? "bean-package" Node.text?
  let spec ← fields.optional? "spec" pathOfNode?
  let inputBaseDir ← fields.optional? "input-base-dir" pathOfNode?
  let edition ← fields.given? "namespace" Edition.ofNode?
  let naming ← fields.group? "naming" ["interface-suffix"]
  let interfaceSuffix ← naming.given? "interface-suffix" Node.text?
  let formatter ← fields.group? "formatter" ["indent-size", "use-tabs", "line-ending"]
  let indentSize ← formatter.given? "indent-size" Node.natural?
  let useTabs ← formatter.given? "use-tabs" Node.bool?
  let lineEnding ← formatter.given? "line-ending" LineEnding.ofNode?
  some { mutiny, reactive, wrapper, returnResponse, basePackage, beanPackage, spec, inputBaseDir,
         edition, interfaceSuffix, indentSize, useTabs, lineEnding }

/-- What a document gives. -/
def ofNode? (n : Node) : Option Layer :=
  (n.fields? fieldNames).bind ofFields?

/-- The settings with their defaults where nothing is given. -/
def complete (l : Layer) : Settings :=
  let initial : Settings := {}
  { reactive := l.reactive.getD initial.reactive
    wrapper := (l.mutiny.map AsyncWrapper.ofSwitch).getD (l.wrapper.getD initial.wrapper)
    returnResponse := l.returnResponse.getD initial.returnResponse
    basePackage := l.basePackage.getD initial.basePackage
    beanPackage? := l.beanPackage
    spec := l.spec
    inputBaseDir := l.inputBaseDir
    edition := l.edition.getD initial.edition
    naming := { interfaceSuffix := l.interfaceSuffix.getD initial.naming.interfaceSuffix }
    formatter :=
      { indentSize := l.indentSize.getD initial.formatter.indentSize
        useTabs := l.useTabs.getD initial.formatter.useTabs
        lineEnding := l.lineEnding.getD initial.formatter.lineEnding } }

end Layer

theorem orElse?_naming (fields : Fields) :
    fields.orElse? "naming" {} Naming.ofNode? = (do
      let naming ← fields.group? "naming" ["interface-suffix"]
      let suffix ← naming.given? "interface-suffix" Node.text?
      some { interfaceSuffix := suffix.getD "" }) := by
  have hread (n : Node) : Naming.ofNode? n = (n.fields? ["interface-suffix"]).bind fun naming ↦
      (naming.given? "interface-suffix" Node.text?).bind fun suffix ↦
        some { interfaceSuffix := suffix.getD "" } := by
    simp only [Naming.ofNode?, Fields.orElse?_eq_map_given?, Option.bind_eq_bind, Option.bind_map]
    rfl
  simp only [funext hread]
  exact Fields.orElse?_eq_group?_bind rfl

theorem orElse?_formatter (fields : Fields) :
    fields.orElse? "formatter" {} Formatter.ofNode? = (do
      let formatter ← fields.group? "formatter" ["indent-size", "use-tabs", "line-ending"]
      let indentSize ← formatter.given? "indent-size" Node.natural?
      let useTabs ← formatter.given? "use-tabs" Node.bool?
      let lineEnding ← formatter.given? "line-ending" LineEnding.ofNode?
      some { indentSize := indentSize.getD 4, useTabs := useTabs.getD false,
             lineEnding := lineEnding.getD .lf }) := by
  have hread (n : Node) : Formatter.ofNode? n =
      (n.fields? ["indent-size", "use-tabs", "line-ending"]).bind fun formatter ↦
        (formatter.given? "indent-size" Node.natural?).bind fun indentSize ↦
          (formatter.given? "use-tabs" Node.bool?).bind fun useTabs ↦
            (formatter.given? "line-ending" LineEnding.ofNode?).bind fun lineEnding ↦
              some { indentSize := indentSize.getD 4, useTabs := useTabs.getD false,
                     lineEnding := lineEnding.getD .lf } := by
    simp only [Formatter.ofNode?, Fields.orElse?_eq_map_given?, Option.bind_eq_bind,
      Option.bind_map]
    rfl
  simp only [funext hread]
  exact Fields.orElse?_eq_group?_bind rfl

section Bind

variable {α β γ δ : Type} {g : γ → δ}

/-- What is made of a value that is read in the same way. -/
private theorem bind_eq_map_bind {x : Option α} {f : α → Option δ} {f' : α → Option γ}
    (hf : ∀ a, f a = (f' a).map g) : x.bind f = (x.bind f').map g := by
  rw [Option.map_bind]
  exact congrArg x.bind (funext hf)

/-- What is made of a value that is read with a default, and of one that is read without. -/
private theorem bind_map_eq_map_bind {x : Option α} {y : Option β} {complete : β → α}
    {f : α → Option δ} {f' : β → Option γ} (hx : x = y.map complete)
    (hf : ∀ b, f (complete b) = (f' b).map g) : x.bind f = (y.bind f').map g := by
  rw [hx, Option.bind_map]
  exact bind_eq_map_bind hf

end Bind

theorem ofNode?_eq_map_complete (n : Node) : ofNode? n = (Layer.ofNode? n).map Layer.complete := by
  refine bind_eq_map_bind fun fields ↦ ?_
  refine bind_eq_map_bind fun mutiny ↦ ?_
  refine bind_map_eq_map_bind (fields.orElse?_eq_map_given? _ _ _) fun reactive ↦ ?_
  refine bind_map_eq_map_bind (fields.orElse?_eq_map_given? _ _ _) fun wrapper ↦ ?_
  refine bind_map_eq_map_bind (fields.orElse?_eq_map_given? _ _ _) fun returnResponse ↦ ?_
  refine bind_map_eq_map_bind (fields.orElse?_eq_map_given? _ _ _) fun basePackage ↦ ?_
  refine bind_eq_map_bind fun beanPackage ↦ ?_
  refine bind_eq_map_bind fun spec ↦ ?_
  refine bind_eq_map_bind fun inputBaseDir ↦ ?_
  refine bind_map_eq_map_bind (fields.orElse?_eq_map_given? _ _ _) fun edition ↦ ?_
  rw [orElse?_naming]
  refine (Option.bind_assoc _ _ _).trans (bind_eq_map_bind fun naming ↦ ?_)
  refine (Option.bind_assoc _ _ _).trans (bind_eq_map_bind fun interfaceSuffix ↦ ?_)
  rw [orElse?_formatter]
  refine (Option.bind_assoc _ _ _).trans (bind_eq_map_bind fun formatter ↦ ?_)
  refine (Option.bind_assoc _ _ _).trans (bind_eq_map_bind fun indentSize ↦ ?_)
  refine (Option.bind_assoc _ _ _).trans (bind_eq_map_bind fun useTabs ↦ ?_)
  refine (Option.bind_assoc _ _ _).trans (bind_eq_map_bind fun lineEnding ↦ ?_)
  cases mutiny with
  | none => rfl
  | some on => rfl

end Settings

end Jaxrs
