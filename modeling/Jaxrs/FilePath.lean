import Jaxrs.Text.Segment

/-!
Paths of files as they are written. A path is a sequence of components separated by slashes; empty
components and single dots in it are no components of their own, except for a dot at the start.
-/

set_option autoImplicit false

namespace Jaxrs

structure FilePath where
  text : String
  deriving DecidableEq, Repr

namespace FilePath

def isAbsolute (p : FilePath) : Bool :=
  p.text.toList.head? == some '/'

def isRelative (p : FilePath) : Bool :=
  !p.isAbsolute

/-- An absolute second path stands alone; otherwise a slash comes between the two texts, unless
the first is empty or already ends with one. -/
def join (base p : FilePath) : FilePath :=
  if p.isAbsolute || base.text.isEmpty then p
  else if base.text.toList.getLast? == some '/' then ⟨base.text ++ p.text⟩
  else ⟨base.text ++ "/" ++ p.text⟩

/-- The segments that are neither empty nor a single dot. -/
def names (p : FilePath) : List String :=
  (Text.segments '/' p.text).filter fun s => s != "" && s != "."

/-- The last component, unless it leads upwards. -/
def fileName? (p : FilePath) : Option String :=
  p.names.getLast?.filter (· != "..")

/-- The path without its last component, if it has one. -/
def parent? (p : FilePath) : Option FilePath :=
  if p.names.isEmpty then none
  else some ⟨(if p.isAbsolute then "/" else "") ++ Text.joinWith "/" p.names.dropLast⟩

/-- What comes after the last dot of a file name, if anything comes before it. -/
def nameExtension? (name : String) : Option String :=
  match Text.splitLast '.' name with
  | (none, _) => none
  | (some "", _) => none
  | (some _, extension) => some extension

def extension? (p : FilePath) : Option String :=
  p.fileName?.bind nameExtension?

end FilePath

end Jaxrs
