import Jaxrs.Number

/-!
Documents as trees. Records keep their fields in order and may repeat a key: whether that is an
error is for the reader of a field to say. An unquoted scalar keeps its text, because what it
stands for depends on what is expected in its place.
-/

set_option autoImplicit false

namespace Jaxrs

/-- The key of a field. A list or a record in its place has no text. -/
inductive Key where
  | text (s : String)
  | plain (s : String)
  | compound
  deriving DecidableEq, Repr

namespace Key

def text? : Key → Option String
  | text s => some s
  | plain s => some s
  | compound => none

end Key

inductive Node where
  | null
  | bool (b : Bool)
  | number (n : Number)
  | text (s : String)
  /-- An unquoted scalar. -/
  | plain (s : String)
  /-- A list, which can also stand for the fields of a record in order. -/
  | list (items : List Node)
  /-- A list and nothing else. -/
  | sequence (items : List Node)
  | record (fields : List (Key × Node))
  /-- Well-formed, but without a value: it can be skipped and nothing else. -/
  | unreadable
  deriving Repr

namespace Node

mutual

/-- Every part of the tree has a value. -/
def isReadable : Node → Bool
  | unreadable => false
  | list items => areReadable items
  | sequence items => areReadable items
  | record fields => fieldsReadable fields
  | null => true
  | bool _ => true
  | number _ => true
  | text _ => true
  | plain _ => true

def areReadable : List Node → Bool
  | [] => true
  | n :: rest => isReadable n && areReadable rest

def fieldsReadable : List (Key × Node) → Bool
  | [] => true
  | (_, n) :: rest => isReadable n && fieldsReadable rest

end

/-- A later field with the same key replaces an earlier one and takes its place. -/
def putField (fields : List (Key × Node)) (key : Key) (value : Node) : List (Key × Node) :=
  if fields.any (·.1 == key) then
    fields.map fun f => if f.1 == key then (key, value) else f
  else fields ++ [(key, value)]

mutual

/-- The tree in which every record has each key once, with its last value. -/
def lastWins : Node → Node
  | list items => list (lastWinsList items)
  | sequence items => sequence (lastWinsList items)
  | record fields =>
    record ((lastWinsFields fields).foldl (fun done f => putField done f.1 f.2) [])
  | null => null
  | bool b => bool b
  | number n => number n
  | text s => text s
  | plain s => plain s
  | unreadable => unreadable

def lastWinsList : List Node → List Node
  | [] => []
  | n :: rest => lastWins n :: lastWinsList rest

def lastWinsFields : List (Key × Node) → List (Key × Node)
  | [] => []
  | (k, n) :: rest => (k, lastWins n) :: lastWinsFields rest

end

end Node

end Jaxrs
