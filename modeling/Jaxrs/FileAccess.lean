import Jaxrs.FileTree

/-!
Operations on files, for programs that run on a tree of files as well as on a real disk.
-/

set_option autoImplicit false

namespace Jaxrs

class FileAccess (m : Type → Type) where
  readText : FilePath → m (Except FileError String)
  isFile : FilePath → m Bool
  isDirectory : FilePath → m Bool
  /-- The files at any depth below a directory, by the names that lead to them from there. -/
  filesBelow : FilePath → m (List Place)
  /-- Makes a directory and those that lead to it, as far as they are missing. -/
  createDirectories : FilePath → m (Except FileError Unit)
  writeText : FilePath → String → m (Except FileError Unit)

instance : FileAccess (StateM FileTree) where
  readText p := return (← get).readText p
  isFile p := return (← get).isFile p
  isDirectory p := return (← get).isDirectory p
  filesBelow p := return (← get).filesBelow p
  createDirectories p := modifyGet fun t => ((t.createDirectories p).2, (t.createDirectories p).1)
  writeText p s := modifyGet fun t => ((t.writeText p s).2, (t.writeText p s).1)

end Jaxrs
