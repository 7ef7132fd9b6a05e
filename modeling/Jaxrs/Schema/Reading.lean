import Jaxrs.Document.Field
import Jaxrs.Schema.Basic

/-!
Reading schemas. A node is tried as a reference, then as an array, a single value and a composite,
and the first form whose known fields are all right is taken. A field that does not matter for the
result is still checked.

Every part of the tree is read once, from the leaves up: the reading of a node says what it is
good for, and the reading of a list or record is made of those of its parts.
-/

set_option autoImplicit false

namespace Jaxrs.Schema

/-- What a node can stand for. -/
structure Reading where
  node : Node
  /-- A schema or a reference. -/
  schema : Option Schema
  /-- A schema, but not a reference. -/
  inline : Option Schema
  /-- A list of schemas or references. -/
  schemas : Option (List Schema)
  /-- A list of schemas without references. -/
  inlines : Option (List Schema)
  /-- A record of schemas or references. -/
  isSchemaRecord : Bool
  /-- All keys in it are texts. -/
  isPlainData : Bool

/-- The name a key stands for, if it stands for a text. -/
def keyText? : Key → Option String
  | .text s => some s
  | .plain s =>
    match Plain.resolve s with
    | .text s => some s
    | _ => none
  | .compound => none

/-- The name a key stands for among names in order, where a number stands for a position. -/
def positionKey? (names : List String) : Key → Option String
  | .plain s =>
    match Plain.resolve s with
    | .text s => some s
    | .number n => n.unsigned?.map fun i => names.getD i ""
    | _ => none
  | key => key.text?

def positionFields? (names : List String) : Node → Option Fields
  | .record fields => do
    let named ← fields.mapM fun f => (positionKey? names f.1).map fun k => (Key.text k, f.2)
    Fields.ofNames? names named
  | n => n.fields? names

/-- A field that must hold if it is there. -/
def holds (fields : Fields) (name : String) (check : Node → Bool) : Bool :=
  (fields.find? name).all check

/-- A field that must hold if it is there, or be null. -/
def holdsOrNull (fields : Fields) (name : String) (check : Node → Bool) : Bool :=
  holds fields name fun n => n.isAbsent || check n

def isText (n : Node) : Bool := n.text?.isSome

def isBool (n : Node) : Bool := n.bool?.isSome

def isNatural (n : Node) : Bool := n.natural?.isSome

def isList (n : Node) : Bool := n.list?.isSome

def isNumber : Node → Bool
  | .number _ => true
  | _ => false

def number? : Node → Option Number
  | .number n => some n
  | _ => none

def reference? (n : Node) : Option Schema := do
  let fields ← positionFields? ["$ref", "description", "summary"] n
  let location ← fields.required? "$ref" Node.text?
  if holds fields "description" isText && holds fields "summary" isText then
    some (.reference location)
  else none

def dataType? (n : Node) : Option DataType := do
  DataType.ofName? (← n.choice?)

def typeChoice? : Node → Option TypeChoice
  | .null => some .anything
  | .list items => (items.mapM dataType?).map .among
  | n => (dataType? n).map .one

/-- Formats that have a name of their own; any other text is a format too. -/
def knownFormats : List String :=
  ["int32", "int64", "float", "double", "byte", "binary", "time", "date", "date-time", "duration",
   "password", "uuid", "email", "idn-email", "hostname", "idn-hostname", "ipv4", "ipv6", "uri",
   "uri-reference", "iri", "iri-reference", "uri-template", "json-pointer",
   "relative-json-pointer", "regex"]

def format? : Node → Option String
  | .record fields => do
    let s ← (Node.record fields).choice?
    if knownFormats.contains s then some s else none
  | n => n.text?

/-- Markup written as a list has all its fields. -/
def isMarkup (n : Node) : Bool :=
  let texts := ["name", "namespace", "prefix"]
  let flags := ["attribute", "wrapped"]
  match positionFields? (texts ++ flags) n with
  | none => false
  | some fields =>
    texts.all (holdsOrNull fields · isText) && flags.all (holdsOrNull fields · isBool) &&
      (n.list?.isNone || fields.length == 5)

/-- The readings of a record's fields, by name; none if a key is not a text. -/
abbrev Parts := List (String × Reading)

def Parts.find? (parts : Parts) (name : String) : Option Reading :=
  parts.lookup name

/--
The fields with the given names, none if one is there twice; what the other fields hold must be
plain data.
-/
def Parts.known? (parts : Parts) (names : List String) : Option Fields := do
  let fields ← Fields.ofNames? names (parts.map fun p => (.text p.1, p.2.node))
  if parts.all fun p => names.contains p.1 || p.2.isPlainData then some fields else none

def Parts.holds (parts : Parts) (name : String) (check : Reading → Bool) : Bool :=
  (parts.find? name).all check

def Parts.holdsOrNull (parts : Parts) (name : String) (check : Reading → Bool) : Bool :=
  parts.holds name fun r => r.node.isAbsent || check r

/-- A list of plain data. -/
def Reading.isDataList (r : Reading) : Bool :=
  isList r.node && r.isPlainData

def array? (parts : Parts) : Option Schema := do
  let fields ← parts.known? ["type", "title", "items", "prefixItems", "description", "deprecated",
    "example", "examples", "default", "maxItems", "minItems", "uniqueItems", "xml",
    "contentEncoding", "contentMediaType"]
  let _ ← fields.required? "type" typeChoice?
  let read ← parts.find? "items"
  let items ← match read.schema, read.node with
    | some s, _ => some (some s)
    | none, .bool false => some none
    | none, _ => none
  let minItems ← fields.optional? "minItems" Node.natural?
  let maxItems ← fields.optional? "maxItems" Node.natural?
  if ["title", "description"].all (Schema.holdsOrNull fields · isText) &&
      parts.holds "prefixItems" (·.inlines.isSome) &&
      Schema.holdsOrNull fields "deprecated" isBool &&
      Schema.holds fields "uniqueItems" isBool &&
      Schema.holdsOrNull fields "xml" isMarkup &&
      ["example", "default"].all (parts.holds · (·.isPlainData)) &&
      parts.holds "examples" (·.isDataList) &&
      ["contentEncoding", "contentMediaType"].all (Schema.holds fields · isText) then
    some (.array items minItems maxItems)
  else none

def value? (parts : Parts) : Option Schema := do
  let fields ← parts.known? ["type", "title", "format", "description", "default", "enum",
    "required", "properties", "additionalProperties", "propertyNames", "deprecated", "example",
    "examples", "writeOnly", "readOnly", "xml", "multipleOf", "maximum", "minimum",
    "exclusiveMaximum", "exclusiveMinimum", "maxLength", "minLength", "pattern", "maxProperties",
    "minProperties", "contentEncoding", "contentMediaType"]
  let type ← fields.required? "type" typeChoice?
  let format ← fields.optional? "format" format?
  let minimum ← fields.optional? "minimum" number?
  let maximum ← fields.optional? "maximum" number?
  let minLength ← fields.optional? "minLength" Node.natural?
  let maxLength ← fields.optional? "maxLength" Node.natural?
  let pattern ← fields.optional? "pattern" Node.text?
  if ["title", "description"].all (Schema.holdsOrNull fields · isText) &&
      parts.holdsOrNull "enum" (·.isDataList) &&
      Schema.holds fields "required" (fun n => (n.listOf? Node.text?).isSome) &&
      parts.holds "properties" (·.isSchemaRecord) &&
      parts.holdsOrNull "additionalProperties" (fun r => r.schema.isSome || isBool r.node) &&
      parts.holdsOrNull "propertyNames" (·.inline.isSome) &&
      ["deprecated", "readOnly", "writeOnly"].all (Schema.holdsOrNull fields · isBool) &&
      ["example", "default"].all (parts.holds · (·.isPlainData)) &&
      parts.holds "examples" (·.isDataList) &&
      Schema.holdsOrNull fields "xml" isMarkup &&
      ["multipleOf", "exclusiveMinimum", "exclusiveMaximum"].all
        (Schema.holdsOrNull fields · isNumber) &&
      ["minProperties", "maxProperties"].all (Schema.holdsOrNull fields · isNatural) &&
      ["contentEncoding", "contentMediaType"].all (Schema.holds fields · isText) then
    some (.value { type, format, minimum, maximum, minLength, maxLength, pattern })
  else none

def isDiscriminator : Node → Bool
  | .record entries =>
    match entries.mapM (fun f => (keyText? f.1).map fun k => (Key.text k, f.2)) with
    | none => false
    | some named =>
      match Fields.ofNames? ["propertyName", "mapping"] named with
      | none => false
      | some fields =>
        (fields.required? "propertyName" Node.text?).isSome &&
          Schema.holds fields "mapping" fun
            | .record targets => targets.all fun t => (keyText? t.1).isSome && isText t.2
            | _ => false
  | _ => false

def composite? (parts : Parts) (name : String) (hasTitle : Bool) : Option (List Schema) := do
  let own := [name, "type", "description", "default", "example", "examples", "discriminator"]
  let fields ← parts.known? (if hasTitle then "title" :: own else own)
  let schemas ← (← parts.find? name).schemas
  if Schema.holds fields "type" (fun n => (typeChoice? n).isSome) &&
      (hasTitle == false || Schema.holdsOrNull fields "title" isText) &&
      Schema.holdsOrNull fields "description" isText &&
      ["example", "default"].all (parts.holds · (·.isPlainData)) &&
      parts.holds "examples" (·.isDataList) &&
      Schema.holdsOrNull fields "discriminator" isDiscriminator then
    some schemas
  else none

def inline? (parts : Parts) : Option Schema :=
  array? parts <|> value? parts <|> (composite? parts "oneOf" true).map .oneOf <|>
    (composite? parts "allOf" true).map .allOf <|> (composite? parts "anyOf" false).map .anyOf

def Reading.ofScalar (n : Node) : Reading where
  node := n
  schema := none
  inline := none
  schemas := none
  inlines := none
  isSchemaRecord := false
  isPlainData := true

def Reading.ofList (items : List Node) (read : List Reading) : Reading where
  node := .list items
  schema := reference? (.list items)
  inline := none
  schemas := read.mapM (·.schema)
  inlines := read.mapM (·.inline)
  isSchemaRecord := false
  isPlainData := read.all (·.isPlainData)

def Reading.ofRecord (fields : List (Key × Node)) (read : List (Key × Reading)) : Reading :=
  let parts : Option Parts := read.mapM fun f => (keyText? f.1).map (·, f.2)
  let inline := parts.bind inline?
  { node := .record fields
    schema := reference? (.record fields) <|> inline
    inline
    schemas := none
    inlines := none
    isSchemaRecord := parts.isSome && read.all (·.2.schema.isSome)
    isPlainData := parts.isSome && read.all (·.2.isPlainData) }

mutual

def reading : Node → Reading
  | .list items => .ofList items (readingList items)
  | .sequence items => .ofList items (readingList items)
  | .record fields => .ofRecord fields (readingFields fields)
  | .null => .ofScalar .null
  | .bool b => .ofScalar (.bool b)
  | .number n => .ofScalar (.number n)
  | .text s => .ofScalar (.text s)
  | .plain s => .ofScalar (.plain s)
  | .unreadable => .ofScalar .unreadable

def readingList : List Node → List Reading
  | [] => []
  | n :: rest => reading n :: readingList rest

def readingFields : List (Key × Node) → List (Key × Reading)
  | [] => []
  | (k, n) :: rest => (k, reading n) :: readingFields rest

end

/-- The schema or reference that a node stands for. -/
def ofNode? (n : Node) : Option Schema :=
  let n := n.resolved
  if n.isReadable then (reading n).schema else none

end Jaxrs.Schema
