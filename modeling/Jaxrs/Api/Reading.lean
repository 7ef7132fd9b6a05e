import Jaxrs.Api
import Jaxrs.Schema.Reading

/-!
Reading API descriptions from documents.
-/

set_option autoImplicit false

namespace Jaxrs

def AnnotationValue.ofNode? (n : Node) : Option AnnotationValue := do
  let fields ← n.fields? ["name", "literal"]
  let name ← fields.required? "name" Node.text?
  let literal ← fields.required? "literal" Node.text?
  some { name, literal }

def Annotation.ofNode? (n : Node) : Option Annotation := do
  let fields ← n.fields? ["name", "values"]
  let name ← fields.required? "name" Node.text?
  let values ← fields.orElse? "values" [] (Node.listOf? AnnotationValue.ofNode?)
  some { name, values }

namespace Node

mutual

/-- Every key is a scalar. -/
def hasScalarKeys : Node → Bool
  | list items => haveScalarKeys items
  | sequence items => haveScalarKeys items
  | record fields => fieldsHaveScalarKeys fields
  | null => true
  | bool _ => true
  | number _ => true
  | text _ => true
  | plain _ => true
  | unreadable => true

def haveScalarKeys : List Node → Bool
  | [] => true
  | n :: rest => hasScalarKeys n && haveScalarKeys rest

def fieldsHaveScalarKeys : List (Key × Node) → Bool
  | [] => true
  | (k, n) :: rest => k.text?.isSome && hasScalarKeys n && fieldsHaveScalarKeys rest

end

/-- Data of any form, of which nothing is kept. -/
def anything? (n : Node) : Option Unit :=
  if n.resolved.isReadable && n.hasScalarKeys then some () else none

end Node

def Argument.ofNode? (n : Node) : Option Argument := do
  let fields ← n.fields? ["name", "in", "required", "schema", "typeSignature", "annotations"]
  let name ← fields.required? "name" Node.text?
  let location ← fields.required? "in" Node.text?
  let required ← fields.orElse? "required" false Node.bool?
  let schema ← fields.optional? "schema" Schema.ofNode?
  let signature ← fields.optional? "typeSignature" Node.anything?
  let annotations ← fields.orElse? "annotations" [] (Node.listOf? Annotation.ofNode?)
  some { name, location := .ofName location, required, schema,
         hasSignature := signature.isSome, annotations }

def Response.ofNode? (n : Node) : Option Response := do
  let fields ← n.fields? ["schema"]
  let schema ← fields.optional? "schema" Schema.ofNode?
  some { schema }

def Operation.ofNode? (n : Node) : Option Operation := do
  let fields ← n.fields? ["name", "path", "method", "description", "produces", "consumes",
    "async", "arguments", "return"]
  let name ← fields.required? "name" Node.text?
  let path ← fields.optional? "path" Node.text?
  let verb ← fields.required? "method" Node.text?
  let description ← fields.optional? "description" Node.text?
  let produces ← fields.optional? "produces" (Node.listOf? Node.text?)
  let consumes ← fields.optional? "consumes" (Node.listOf? Node.text?)
  let async ← fields.optional? "async" Node.bool?
  let arguments ← fields.orElse? "arguments" [] (Node.listOf? Argument.ofNode?)
  let response ← fields.optional? "return" Response.ofNode?
  some { name, path, verb, description, produces, consumes, async, arguments, response }

def Resource.ofNode? (n : Node) : Option Resource := do
  let fields ← n.fields? ["package", "name", "path", "methods"]
  let package ← fields.required? "package" Node.text?
  let name ← fields.required? "name" Node.text?
  let path ← fields.orElse? "path" "" Node.text?
  let operations ← fields.orElse? "methods" [] (Node.listOf? Operation.ofNode?)
  some { package, name, path, operations }

def Api.ofNode? (n : Node) : Option Api := do
  let fields ← n.fields? ["name", "version", "contextRoot", "interfaces"]
  let name ← fields.orElse? "name" "" Node.text?
  let version ← fields.optional? "version" Node.text?
  let contextRoot ← fields.orElse? "contextRoot" "" Node.text?
  let resources ← fields.orElse? "interfaces" [] (Node.listOf? Resource.ofNode?)
  some { name, version, contextRoot, resources }

end Jaxrs
