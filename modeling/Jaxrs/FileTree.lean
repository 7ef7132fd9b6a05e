import Jaxrs.Failure
import Jaxrs.FilePath

/-!
Trees of files. A place in the tree is the list of names that leads to it from the top. A program
runs in one of the directories: a path that starts with a slash is followed from the top, and every
other one from that directory. Paths are followed name by name, and every name but the last has to
be that of a directory.
-/

set_option autoImplicit false

namespace Jaxrs

inductive Content where
  | text (s : String)
  /-- Bytes that are not the encoding of a text. -/
  | binary (bytes : List UInt8)
  deriving DecidableEq, Repr

def Content.ofBytes (bytes : List UInt8) : Content :=
  match String.fromUTF8? ⟨bytes.toArray⟩ with
  | some s => text s
  | none => binary bytes

inductive Entry where
  | file (content : Content)
  | directory
  deriving DecidableEq, Repr

abbrev Place := List String

structure FileTree where
  /-- What is at each place, where a place occurs once. -/
  entries : List (Place × Entry)
  /-- The directory that the program runs in. -/
  workingDirectory : Place := []
  deriving Repr

namespace FileTree

def empty : FileTree := { entries := [] }

/-- The directory that the program runs in and those above it are always there. -/
def find? (t : FileTree) (place : Place) : Option Entry :=
  if place <+: t.workingDirectory then some .directory else t.entries.lookup place

def put (t : FileTree) (place : Place) (e : Entry) : FileTree :=
  { t with entries := t.entries.filter (·.1 != place) ++ [(place, e)] }

/-- The place that one segment of a path leads to. The top is its own parent. -/
def step (place : Place) (segment : String) : Place :=
  if segment == "" || segment == "." then place
  else if segment == ".." then place.dropLast
  else place ++ [segment]

/-- Follows the segments of a path from a place. -/
def walk (t : FileTree) (place : Place) : List String → Except FileError Place
  | [] => .ok place
  | segment :: rest =>
    match t.find? place with
    | none => .error .notFound
    | some (.file _) => .error .notDirectory
    | some .directory => t.walk (step place segment) rest

/-- The place that a path is followed from. -/
def start (t : FileTree) (p : FilePath) : Place :=
  if p.isAbsolute then [] else t.workingDirectory

/-- The place of a path, whether or not there is anything. The empty text is no path. -/
def resolve (t : FileTree) (p : FilePath) : Except FileError Place :=
  if p.text.isEmpty then .error .notFound
  else t.walk (t.start p) (Text.segments '/' p.text)

def lookup (t : FileTree) (p : FilePath) : Except FileError Entry := do
  match t.find? (← t.resolve p) with
  | none => throw .notFound
  | some e => return e

def readText (t : FileTree) (p : FilePath) : Except FileError String := do
  match ← t.lookup p with
  | .directory => throw .isDirectory
  | .file (.binary _) => throw .notText
  | .file (.text s) => return s

def isFile (t : FileTree) (p : FilePath) : Bool :=
  match t.lookup p with
  | .ok (.file _) => true
  | _ => false

def isDirectory (t : FileTree) (p : FilePath) : Bool :=
  match t.lookup p with
  | .ok .directory => true
  | _ => false

/-- The files at any depth below a directory, by the names that lead to them from there. -/
def filesBelow (t : FileTree) (p : FilePath) : List Place :=
  match t.resolve p with
  | .error _ => []
  | .ok top => t.entries.filterMap fun (place, e) =>
      match e with
      | .directory => none
      | .file _ =>
        if top.isPrefixOf place && place.length > top.length then some (place.drop top.length)
        else none

/-- Makes one directory at the end of a path, given by its segments, last first. -/
def makeDirectory (t : FileTree) (start : Place) (segment : String) (outer : List String) :
    Except FileError FileTree := do
  let parent ← t.walk start outer.reverse
  match t.find? parent with
  | none => throw .notFound
  | some (.file _) => throw .notDirectory
  | some .directory =>
    let place := step parent segment
    match t.find? place with
    | some _ => throw .alreadyExists
    | none => return t.put place .directory

/-- Whether the segments, last first, lead to a directory. -/
def leadsToDirectory (t : FileTree) (start : Place) (segments : List String) : Bool :=
  match t.walk start segments.reverse with
  | .ok place => t.find? place == some .directory
  | .error _ => false

/-- Makes the directory at the end of a path and those that lead to it, as far as they are missing;
what has been made stays even if a later step fails. -/
def makeDirectories (t : FileTree) (start : Place) :
    List String → FileTree × Except FileError Unit
  | [] => (t, .ok ())
  | segment :: outer =>
    match t.makeDirectory start segment outer with
    | .ok t => (t, .ok ())
    | .error .notFound =>
      match t.makeDirectories start outer with
      | (t, .error e) => (t, .error e)
      | (t, .ok ()) =>
        match t.makeDirectory start segment outer with
        | .ok t => (t, .ok ())
        | .error e =>
          (t, if t.leadsToDirectory start (segment :: outer) then .ok () else .error e)
    | .error e => (t, if t.leadsToDirectory start (segment :: outer) then .ok () else .error e)

def createDirectories (t : FileTree) (p : FilePath) : FileTree × Except FileError Unit :=
  t.makeDirectories (t.start p) p.names.reverse

/-- A file cannot be made under a name that ends with a slash. -/
def missingError (t : FileTree) (p : FilePath) : FileError :=
  if p.text.toList.getLast? == some '/' &&
      p.parent?.any fun q => q.text.isEmpty || t.isDirectory q then .isDirectory
  else .notFound

/-- Writes a file, in place of the one that is there; its directory has to exist. -/
def writeText (t : FileTree) (p : FilePath) (s : String) : FileTree × Except FileError Unit :=
  match t.resolve p with
  | .error .notFound => (t, .error (t.missingError p))
  | .error e => (t, .error e)
  | .ok place =>
    match t.find? place with
    | some .directory => (t, .error .isDirectory)
    | _ => (t.put place (.file (.text s)), .ok ())

/-- Adds an entry and the directories that lead to it. -/
def plant (t : FileTree) (p : FilePath) (e : Entry) : FileTree :=
  let t := (t.makeDirectories (t.start p) p.names.dropLast.reverse).1
  if p.names.isEmpty then t else t.put (t.start p ++ p.names) e

end FileTree

end Jaxrs
