import Jaxrs.ArgumentName
import Jaxrs.Constraint
import Jaxrs.TypeMapping

/-!
Interfaces of resources. Operations become methods and arguments become parameters, in document
order. The first operation with an unsupported verb is the failure of its resource.
-/

set_option autoImplicit false

namespace Jaxrs

namespace Argument

/-- An untyped body is a raw stream. -/
def fallbackType (a : Argument) : JavaType :=
  match a.location with
  | .body => .inputStream
  | _ => .object

def type (beanPackage : String) (a : Argument) : JavaType :=
  Schema.resolveType beanPackage a.schema a.required a.fallbackType

/-- The binding keeps the name that the argument has in the description. -/
def binding (a : Argument) : Binding :=
  match a.location with
  | .path => .path a.name
  | .query => .query a.name
  | .header => .header a.name
  | .cookie => .cookie a.name
  | .body => .unbound
  | .unclassified _ => .unbound

/-- A required value could still be null, unless it is primitive or part of the path. -/
def needsNotNull (a : Argument) (type : JavaType) : Bool :=
  a.required && a.location != .path && !type.isPrimitive

def parameter (beanPackage : String) (a : Argument) (name : String) : Parameter :=
  let type := a.type beanPackage
  { name
    type
    binding := a.binding
    constraints :=
      (if a.needsNotNull type then [.notNull] else []) ++ Schema.constraints a.schema
    annotations := a.annotations }

end Argument

namespace Operation

/-- The type of the response's content, `void` if there is none. -/
def resultType (settings : Settings) (beanPackage : String) (op : Operation) : JavaType :=
  match op.response with
  | some r => Schema.resolveType beanPackage r.schema true settings.responseType
  | none => .void

def returnType (settings : Settings) (beanPackage : String) (op : Operation) : JavaType :=
  settings.wrapResult (isAsync settings.reactive op.async) (op.resultType settings beanPackage)

def parameters (beanPackage : String) (op : Operation) : List Parameter :=
  op.arguments.zipWith (Argument.parameter beanPackage)
    (ArgumentName.allocate (op.arguments.map Argument.name))

/-- Documentation is the description as `render` shows it. -/
def method (settings : Settings) (beanPackage : String) (render : String → String)
    (op : Operation) : Except Failure Method := do
  let verb ← Verb.ofName op.verb
  return {
    name := op.name
    doc := op.description.map render
    path := op.path
    verb
    produces := op.produces.getD []
    consumes := op.consumes.getD []
    returnType := op.returnType settings beanPackage
    parameters := op.parameters beanPackage }

end Operation

namespace Resource

def interfaceName (settings : Settings) (r : Resource) : String :=
  ClassName.ofName r.name ++ settings.naming.interfaceSuffix

def interface (settings : Settings) (beanPackage : String) (render : String → String)
    (contextRoot : String) (r : Resource) : Except Failure Interface := do
  let methods ← r.operations.mapM (Operation.method settings beanPackage render)
  return {
    package := r.package
    name := r.interfaceName settings
    path := contextRoot ++ r.path
    methods }

end Resource

end Jaxrs
