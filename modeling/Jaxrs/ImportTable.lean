import Jaxrs.Identifier
import Jaxrs.JavaType

/-!
Imports of a source file. Every referenced class is spelled by its simple name if no other class
has taken that name, and by its full name otherwise. The interface itself comes first, then the
classes of its package and those without a package, then `java.lang`; the other classes follow in
the order of their names without regard to case, and those of them that get their simple name are
imported.
-/

set_option autoImplicit false

namespace Jaxrs

/-- Names put in the order of their characters, each once. -/
def sortedNames (names : List String) : List String :=
  (names.mergeSort fun a b => decide (a ≤ b)).eraseDups

namespace ImportTable

/-- Whether a class can be named without an import. -/
inductive Origin where
  | samePackage
  | javaLang
  | elsewhere
  deriving DecidableEq, Repr

def origin (package name : String) : Origin :=
  let owner := (splitQualified name).1
  if owner == "" || owner == package then .samePackage
  else if owner == "java.lang" then .javaLang
  else .elsewhere

def lowerCase (name : String) : String :=
  String.ofList (name.toList.map Char.toLower)

/-- The order of imports: without regard to case first, then exactly. -/
def importOrder (a b : String) : Bool :=
  if lowerCase a = lowerCase b then decide (a ≤ b) else decide (lowerCase a ≤ lowerCase b)

/-- The classes that get their simple name, in order, when some names are taken already. -/
def shortened (taken : List String) : List String → List String
  | [] => []
  | name :: rest =>
    let simple := simpleName name
    if taken.contains simple then shortened taken rest
    else name :: shortened (simple :: taken) rest

end ImportTable

structure ImportTable where
  /-- Classes spelled by their simple names without an import. -/
  implicit : List String
  /-- Imported classes, in the order of the import list. -/
  imports : List String
  /-- Classes spelled by their full names, as their simple names are taken. -/
  qualified : List String
  deriving DecidableEq, Repr

namespace ImportTable

/-- The table for an interface and the classes it refers to, whatever their order. -/
def ofClasses (package interfaceName : String) (classes : List String) : ImportTable :=
  let sorted := sortedNames classes
  let named (o : Origin) := sorted.filter fun c => origin package c == o
  let implicit := shortened [interfaceName] (named .samePackage ++ named .javaLang)
  let taken := interfaceName :: (named .samePackage ++ named .javaLang).map simpleName
  let imports := shortened taken ((named .elsewhere).mergeSort importOrder)
  { implicit
    imports
    qualified := sorted.filter fun c => !(implicit.contains c || imports.contains c) }

/-- None for a class that the table does not know. -/
def spell? (table : ImportTable) (name : String) : Option String :=
  if table.implicit.contains name || table.imports.contains name then some (simpleName name)
  else if table.qualified.contains name then some name
  else none

/-- An unknown class would be spelled by its full name. -/
def spell (table : ImportTable) (name : String) : String :=
  (table.spell? name).getD name

end ImportTable

end Jaxrs
