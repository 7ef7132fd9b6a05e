import Jaxrs.Identifier

/-!
Argument names. Every parameter name of an interface description has a Java identifier as its
base; within one method, a base that is already in use gets the least free number from 2 on.
-/

set_option autoImplicit false

namespace Jaxrs.ArgumentName

def sanitize (c : Char) : Char :=
  if Identifier.isPart c then c else '_'

/-- A legal identifier is its own base. -/
def base (name : String) : String :=
  match name.toList.map sanitize with
  | [] => "_arg"
  | c :: rest =>
    let s := String.ofList (c :: rest)
    if c.isDigit || isReservedWord s then "_" ++ s else s

/-- The base and its numbered variants; one more of them than there are names in use. -/
def candidates (b : String) (used : List String) : List String :=
  b :: (List.range used.length).map fun i => b ++ toString (i + 2)

/-- The first candidate that is not in use. -/
def fresh (used : List String) (name : String) : String :=
  ((candidates (base name) used).find? (! used.contains ·)).getD (base name)

def allocateFrom (used : List String) : List String → List String
  | [] => []
  | name :: rest =>
    let chosen := fresh used name
    chosen :: allocateFrom (chosen :: used) rest

/-- Distinct argument names for the parameters of one method. -/
def allocate (names : List String) : List String :=
  allocateFrom [] names

end Jaxrs.ArgumentName
