import Jaxrs.Document.Plain

/-!
Reading values out of a document. A reader takes a node and gives a value or none; the fields of
a record are found by name, or by position if they are written as a list. Unknown fields are
ignored, and a known field may be there only once.
-/

set_option autoImplicit false

namespace Jaxrs

namespace Node

variable {α : Type}

/-- Any unquoted scalar can stand for its own text. -/
def text? : Node → Option String
  | text s => some s
  | plain s => some s
  | _ => none

def bool? : Node → Option Bool
  | bool b => some b
  | plain s => Plain.bool? s
  | _ => none

/-- A natural number of at most 64 bits. -/
def natural? : Node → Option Nat
  | number n => n.unsigned?
  | plain s => (Plain.natural? s).filter (· < UInt64.size)
  | _ => none

/-- An empty scalar can stand for the empty list. -/
def list? : Node → Option (List Node)
  | list items => some items
  | sequence items => some items
  | plain "" => some []
  | _ => none

/-- An empty scalar can stand for the empty record. -/
def record? : Node → Option (List (Key × Node))
  | record fields => some fields
  | plain "" => some []
  | _ => none

def isAbsent : Node → Bool
  | null => true
  | plain s => Plain.isNull s
  | _ => false

def listOf? (read : Node → Option α) (n : Node) : Option (List α) := do
  (← n.list?).mapM read

/-- A missing value is none. -/
def optional? (read : Node → Option α) (n : Node) : Option (Option α) :=
  if n.isAbsent then some none else (read n).map some

/-- The name of one of several choices: a text, or a record of that one name without a value. -/
def choice? : Node → Option String
  | text s => some s
  | plain s => some s
  | record [(key, null)] => key.text?
  | _ => none

end Node

/-- The known fields of a record, with their names. -/
abbrev Fields := List (String × Node)

namespace Fields

variable {α : Type}

def ofNames? (names : List String) (fields : List (Key × Node)) : Option Fields := do
  let named ← fields.mapM fun f => f.1.text?.map (·, f.2)
  let known := named.filter (names.contains ·.1)
  if (known.map (·.1)).eraseDups.length = known.length then some known else none

/-- The fields in the order of their names; those at the end may be missing. -/
def ofItems? (names : List String) (items : List Node) : Option Fields :=
  if items.length ≤ names.length then some (names.zip items) else none

def find? (fields : Fields) (name : String) : Option Node :=
  fields.lookup name

def required? (fields : Fields) (name : String) (read : Node → Option α) : Option α := do
  read (← fields.find? name)

def orElse? (fields : Fields) (name : String) (fallback : α) (read : Node → Option α) : Option α :=
  match fields.find? name with
  | none => some fallback
  | some n => read n

def optional? (fields : Fields) (name : String) (read : Node → Option α) : Option (Option α) :=
  fields.orElse? name none (Node.optional? read)

end Fields

namespace Node

/-- The known fields of a node that is a record, or a list of the fields in order. -/
def fields? (names : List String) (n : Node) : Option Fields :=
  match n with
  | list items => Fields.ofItems? names items
  | n => do Fields.ofNames? names (← n.record?)

end Node

end Jaxrs
