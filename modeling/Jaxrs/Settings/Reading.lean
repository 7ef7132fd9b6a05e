import Jaxrs.Document.Field
import Jaxrs.Settings.Basic

/-!
Settings as documents. A missing field keeps its default, and the `mutiny` switch decides about the
wrapper whatever `reactive-implementation` says. `Settings.toNode` writes every field under the
name that `Settings.ofNode?` reads it from.
-/

set_option autoImplicit false

namespace Jaxrs

namespace AsyncWrapper

def name : AsyncWrapper → String
  | completionStage => "completion-stage"
  | mutiny => "mutiny"

def ofNode? (n : Node) : Option AsyncWrapper := do
  let s ← n.choice?
  [completionStage, mutiny].find? (·.name == s)

end AsyncWrapper

namespace Edition

def ofNode? (n : Node) : Option Edition := do
  let s ← n.choice?
  [jakarta, javax].find? (·.root == s)

end Edition

namespace LineEnding

def name : LineEnding → String
  | lf => "lf"
  | crLf => "cr-lf"

def ofNode? (n : Node) : Option LineEnding := do
  let s ← n.choice?
  [lf, crLf].find? (·.name == s)

end LineEnding

namespace Formatter

def ofNode? (n : Node) : Option Formatter := do
  let fields ← n.fields? ["indent-size", "use-tabs", "line-ending"]
  let indentSize ← fields.orElse? "indent-size" 4 Node.natural?
  let useTabs ← fields.orElse? "use-tabs" false Node.bool?
  let lineEnding ← fields.orElse? "line-ending" .lf LineEnding.ofNode?
  some { indentSize, useTabs, lineEnding }

def toNode (f : Formatter) : Node :=
  .record [
    (.text "indent-size", .number (.integer f.indentSize)),
    (.text "use-tabs", .bool f.useTabs),
    (.text "line-ending", .text f.lineEnding.name)]

end Formatter

namespace Naming

def ofNode? (n : Node) : Option Naming := do
  let fields ← n.fields? ["interface-suffix"]
  let interfaceSuffix ← fields.orElse? "interface-suffix" "" Node.text?
  some { interfaceSuffix }

def toNode (naming : Naming) : Node :=
  .record [(.text "interface-suffix", .text naming.interfaceSuffix)]

end Naming

namespace Settings

def fieldNames : List String :=
  ["mutiny", "reactive", "reactive-implementation", "return-response", "base-package",
   "bean-package", "spec", "input-base-dir", "namespace", "naming", "formatter"]

def pathOfNode? (n : Node) : Option FilePath :=
  n.text?.map FilePath.mk

def ofNode? (n : Node) : Option Settings := do
  let fields ← n.fields? fieldNames
  let initial : Settings := {}
  let mutiny ← fields.optional? "mutiny" Node.bool?
  let reactive ← fields.orElse? "reactive" initial.reactive Node.bool?
  let wrapper ← fields.orElse? "reactive-implementation" initial.wrapper AsyncWrapper.ofNode?
  let returnResponse ← fields.orElse? "return-response" initial.returnResponse Node.bool?
  let basePackage ← fields.orElse? "base-package" initial.basePackage Node.text?
  let beanPackage? ← fields.optional? "bean-package" Node.text?
  let spec ← fields.optional? "spec" pathOfNode?
  let inputBaseDir ← fields.optional? "input-base-dir" pathOfNode?
  let edition ← fields.orElse? "namespace" initial.edition Edition.ofNode?
  let naming ← fields.orElse? "naming" initial.naming Naming.ofNode?
  let formatter ← fields.orElse? "formatter" initial.formatter Formatter.ofNode?
  let settings : Settings :=
    { reactive, wrapper, returnResponse, basePackage, beanPackage?, spec, inputBaseDir, edition,
      naming, formatter }
  some (mutiny.elim settings settings.withMutiny)

/-- A field that is written only if it is set. -/
def optionalField (name : String) (value : Option String) : List (Key × Node) :=
  (value.map fun s => (Key.text name, Node.text s)).toList

def toNode (s : Settings) : Node :=
  .record (
    [(.text "reactive", .bool s.reactive),
     (.text "reactive-implementation", .text s.wrapper.name),
     (.text "return-response", .bool s.returnResponse),
     (.text "base-package", .text s.basePackage)] ++
    optionalField "bean-package" s.beanPackage? ++
    optionalField "spec" (s.spec.map FilePath.text) ++
    optionalField "input-base-dir" (s.inputBaseDir.map FilePath.text) ++
    [(.text "namespace", .text s.edition.root),
     (.text "naming", s.naming.toNode),
     (.text "formatter", s.formatter.toNode)])

end Settings

end Jaxrs
