import Jaxrs.Document.Yaml.Lexer

/-!
Reading YAML. The tokens of the one document are put together into a tree; a key or a value that is
left out is an empty scalar. What is nested too deeply is well-formed but has no value.
-/

set_option autoImplicit false

namespace Jaxrs.Yaml

def keyOf : Node → Key
  | .text s => .text s
  | .plain s => .plain s
  | _ => .compound

def empty : Node := .plain ""

/-- Lists and records inside this many others have no value. -/
def depthLimit : Nat := 128

def limited (depth : Nat) (n : Node) : Node :=
  if depth < depthLimit then n else .unreadable

/-- Where a node stands, which decides how it may be written. -/
inductive Place where
  /-- After a dash, or at the top of a document. -/
  | block
  /-- In a field of a block record, whose list may have its dashes in the column of the key. -/
  | field
  /-- Inside brackets. -/
  | flow
  deriving DecidableEq, Repr

/-- Nothing stands where an item or a field could. -/
def isLeftOut (place : Place) (isIndented : Bool) : List Token → Bool
  | .key :: _ => place == .field || (place == .block && !isIndented)
  | .value :: _ => place == .field || (place == .block && !isIndented) || place == .flow
  | .blockEnd :: _ => place != .flow
  | .blockEntry :: _ => place == .block
  | .flowEntry :: _ => place == .flow
  | .flowSequenceEnd :: _ => place == .flow
  | .flowMappingEnd :: _ => place == .flow
  | _ => false

mutual

def node? (depth : Nat) (place : Place) (ts : List Token) : Option (Node × List Token) :=
  match ts with
  | .scalar n :: rest => some (n, rest)
  | .flowSequence :: rest => flowItems? depth [] rest
  | .flowMapping :: rest => flowFields? depth [] rest
  | .blockSequence :: .blockEntry :: rest =>
    if place = .flow then none else items? depth true [] rest
  | .blockMapping :: .key :: rest => if place = .flow then none else fields? depth [] rest
  | .blockEntry :: rest => if place = .field then items? depth false [] rest else none
  | _ => none
termination_by 4 * ts.length + 0

/-- A node that may be left out. -/
def nodeOrEmpty? (depth : Nat) (place : Place) (isIndented : Bool) (ts : List Token) :
    Option (Node × List Token) :=
  if isLeftOut place isIndented ts then some (empty, ts) else node? depth place ts
termination_by 4 * ts.length + 1

/-- The items of a block list from the one after a dash. -/
def items? (depth : Nat) (isIndented : Bool) (items : List Node) (ts : List Token) :
    Option (Node × List Token) :=
  match nodeOrEmpty? (depth + 1) .block isIndented ts with
  | none => none
  | some (item, .blockEntry :: rest) =>
    if rest.length < ts.length then items? depth isIndented (item :: items) rest else none
  | some (item, rest) =>
    let all := limited depth (.sequence (item :: items).reverse)
    match isIndented, rest with
    | true, .blockEnd :: rest => some (all, rest)
    | true, _ => none
    | false, rest => some (all, rest)
termination_by 4 * ts.length + 2

/-- The value of a field, which starts with a value mark unless it is left out. -/
def value? (depth : Nat) (place : Place) (ts : List Token) : Option (Node × List Token) :=
  match ts with
  | .value :: rest => nodeOrEmpty? depth place true rest
  | ts => some (empty, ts)
termination_by 4 * ts.length + 0

/-- A field after its key mark. -/
def field? (depth : Nat) (place : Place) (ts : List Token) :
    Option ((Key × Node) × List Token) :=
  match nodeOrEmpty? depth place true ts with
  | none => none
  | some (key, rest) =>
    if rest.length ≤ ts.length then
      match value? depth place rest with
      | none => none
      | some (value, rest) => some ((keyOf key, value), rest)
    else none
termination_by 4 * ts.length + 2

/-- The fields of a block record from the one after a key mark. -/
def fields? (depth : Nat) (fields : List (Key × Node)) (ts : List Token) :
    Option (Node × List Token) :=
  match field? (depth + 1) .field ts with
  | some (field, .key :: rest) =>
    if rest.length < ts.length then fields? depth (field :: fields) rest else none
  | some (field, .blockEnd :: rest) =>
    some (limited depth (.record (field :: fields).reverse), rest)
  | _ => none
termination_by 4 * ts.length + 3

/-- An item in brackets, which may be a record of one field. -/
def flowItem? (depth : Nat) (ts : List Token) : Option (Node × List Token) :=
  match ts with
  | .key :: rest =>
    if isLeftOut .flow true rest then none
    else (field? (depth + 1) .flow rest).map fun r => (limited depth (.record [r.1]), r.2)
  | ts => node? depth .flow ts
termination_by 4 * ts.length + 1

/-- The items of a list in brackets from where one may start. -/
def flowItems? (depth : Nat) (items : List Node) (ts : List Token) :
    Option (Node × List Token) :=
  match ts with
  | .flowSequenceEnd :: rest => some (limited depth (.sequence items.reverse), rest)
  | ts =>
    match flowItem? (depth + 1) ts with
    | some (item, .flowSequenceEnd :: rest) =>
      some (limited depth (.sequence (item :: items).reverse), rest)
    | some (item, .flowEntry :: rest) =>
      if rest.length < ts.length then flowItems? depth (item :: items) rest else none
    | _ => none
termination_by 4 * ts.length + 2

/-- A field in braces, which may be a key alone. -/
def flowField? (depth : Nat) (ts : List Token) : Option ((Key × Node) × List Token) :=
  match ts with
  | .key :: rest => field? depth .flow rest
  | ts => (node? depth .flow ts).map fun r => ((keyOf r.1, empty), r.2)
termination_by 4 * ts.length + 1

/-- The fields of a record in braces from where one may start. -/
def flowFields? (depth : Nat) (fields : List (Key × Node)) (ts : List Token) :
    Option (Node × List Token) :=
  match ts with
  | .flowMappingEnd :: rest => some (limited depth (.record fields.reverse), rest)
  | ts =>
    match flowField? (depth + 1) ts with
    | some (field, .flowMappingEnd :: rest) =>
      some (limited depth (.record (field :: fields).reverse), rest)
    | some (field, .flowEntry :: rest) =>
      if rest.length < ts.length then flowFields? depth (field :: fields) rest else none
    | _ => none
termination_by 4 * ts.length + 2

end

/-- What may follow the only document. -/
def isEnd (ts : List Token) : Bool :=
  ts.all fun
    | .documentEnd => true
    | _ => false

/-- The content of a document, which may be empty. -/
def content? (ts : List Token) : Option (Node × List Token) :=
  match ts with
  | [] => some (empty, [])
  | .documentEnd :: rest => some (empty, rest)
  | ts => node? 0 .block ts

/-- The single document of a YAML text. Without any document the text is an empty scalar. -/
def read? (text : String) : Option Node := do
  let (n, rest) ← match ← tokens? text with
    | [] => some (empty, [])
    | .documentStart :: rest => content? rest
    | ts => node? 0 .block ts
  if isEnd rest then some n else none

end Jaxrs.Yaml
