import Jaxrs.Command.Run

/-!
The program on a real disk. It only passes on what files, the environment and the arguments hold,
and prints the outcome.
-/

set_option autoImplicit false

namespace Jaxrs

def FileError.ofReport : IO.Error → FileError
  | .noFileOrDirectory .. => .notFound
  | .alreadyExists .. => .alreadyExists
  | .inappropriateType _ 20 _ => .notDirectory
  | .inappropriateType _ 21 _ => .isDirectory
  | e => .other (toString e)

namespace Disk

def attempt {α : Type} (action : IO α) : IO (Except FileError α) := do
  match ← action.toBaseIO with
  | .ok a => return .ok a
  | .error e => return .error (.ofReport e)

def readText (p : FilePath) : IO (Except FileError String) := do
  match ← attempt (IO.FS.readBinFile p.text) with
  | .error e => return .error e
  | .ok bytes => return (String.fromUTF8? bytes).elim (.error .notText) .ok

/-- Whether there is something of a kind at the end of a path. -/
def isKind (kind : IO.FS.FileType) (p : FilePath) : IO Bool := do
  match ← attempt (do return (← (← IO.FS.realPath p.text).metadata).type) with
  | .error _ => return false
  | .ok found => return found == kind

partial def filesBelow (p : FilePath) (place : Place) : IO (List Place) := do
  let entries ← (← IO.FS.realPath p.text).readDir
  let found ← entries.toList.mapM fun entry => do
    let inner := place ++ [entry.fileName]
    match (← entry.path.symlinkMetadata).type with
    | .dir => filesBelow (p.join ⟨entry.fileName⟩) inner
    | .file => return [inner]
    | _ => return []
  return found.flatten

end Disk

instance : FileAccess IO where
  readText := Disk.readText
  isFile := Disk.isKind .file
  isDirectory := Disk.isKind .dir
  filesBelow p := Disk.filesBelow p []
  createDirectories p :=
    if p.text.isEmpty then return .ok () else Disk.attempt (IO.FS.createDirAll p.text)
  writeText p s := Disk.attempt (IO.FS.writeFile p.text s)

/-- The environment variables of options that are set. -/
def environment : IO (List (String × String)) := do
  let values ← CommandLine.environmentNames.mapM fun name => do
    return (← IO.getEnv name).map (name, ·)
  return values.filterMap id

end Jaxrs

def main (args : List String) : IO UInt32 := do
  let outcome ← Jaxrs.runLine (← Jaxrs.environment) args
  IO.print outcome.output
  if let some diagnostic := outcome.diagnostic then
    IO.eprintln diagnostic
  return outcome.code.toUInt32
