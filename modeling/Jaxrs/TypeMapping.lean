import Jaxrs.Api
import Jaxrs.ClassName
import Jaxrs.JavaType
import Jaxrs.Settings.Basic

/-!
Java types of schemas, and the wrapping of results. A required value may be primitive, an optional
one is boxed; items of a list are always boxed.
-/

set_option autoImplicit false

namespace Jaxrs

/-- The primitive if the value is required, its reference type otherwise. -/
def JavaType.primitiveIf (required : Bool) (p : Primitive) : JavaType :=
  if required then .primitive p else (JavaType.primitive p).boxed

/-- The type of a single value; objects, bare arrays and nulls carry no usable type. -/
def DataType.javaType? (t : DataType) (format : Option String) (required : Bool) :
    Option JavaType :=
  match t with
  | .integer =>
    match format with
    | some "int64" => some (.primitiveIf required .long)
    | _ => some (.primitiveIf required .int)
  | .number =>
    match format with
    | some "float" => some (.primitiveIf required .float)
    | some "double" => some (.primitiveIf required .double)
    | _ => some (.plain "java.math.BigDecimal")
  | .boolean => some (.primitiveIf required .boolean)
  | .string =>
    match format with
    | some "date" => some (.plain "java.time.LocalDate")
    | some "date-time" => some (.plain "java.time.OffsetDateTime")
    | some "uuid" => some (.plain "java.util.UUID")
    | some "binary" => some .inputStream
    | _ => some (.plain "java.lang.String")
  | .object => none
  | .array => none
  | .null => none

namespace Schema

/-- The bean that a reference names: the class of the text after its last slash. -/
def beanName? (beanPackage location : String) : Option String :=
  match ClassName.ofName (Text.splitLast '/' location).2 with
  | "" => none
  | name => some (beanPackage ++ "." ++ name)

/-- None for composites, which would need a bean of their own. -/
def javaType? (beanPackage : String) : Schema → Bool → Option JavaType
  | reference location, _ => (beanName? beanPackage location).map .plain
  | value v, required => do (← v.type.primary?).javaType? v.format required
  | array (some items) _ _, _ =>
    some (.named "java.util.List" [((javaType? beanPackage items false).getD .object).boxed])
  | array none _ _, _ => none
  | oneOf _, _ => none
  | allOf _, _ => none
  | anyOf _, _ => none

/-- The type of a schema, or the fallback if it is missing or gives no usable type. -/
def resolveType (beanPackage : String) (schema : Option Schema) (required : Bool)
    (fallback : JavaType) : JavaType :=
  (schema.bind (javaType? beanPackage · required)).getD fallback

end Schema

/-- The operation's own choice, or else the project's. -/
def isAsync (reactive : Bool) (choice : Option Bool) : Bool :=
  choice.getD reactive

namespace Settings

/-- The response type of the platform, which says nothing of its content. -/
def responseType (s : Settings) : JavaType :=
  .plain (s.edition.root ++ ".ws.rs.core.Response")

/-- The result put into a response, if responses are to be returned. -/
def envelope (s : Settings) (result : JavaType) : JavaType :=
  if s.returnResponse then
    if result.isVoid then s.responseType
    else .named "org.jboss.resteasy.reactive.RestResponse" [result.boxed]
  else result

/-- The result in its response and, if it is asynchronous, in the wrapper. -/
def wrapResult (s : Settings) (async : Bool) (result : JavaType) : JavaType :=
  if async then .named s.wrapper.className [(s.envelope result).boxed] else s.envelope result

end Settings

end Jaxrs
