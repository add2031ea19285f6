/-
What is asked of a file system: what is at a path, what a file holds, and what a glob finds. A `FileTree` answers with
what it holds. Other file systems may answer otherwise, and may refuse to say what is at a path, for lack of permission
or for another reason.
-/
import CatchAudit.Files.Glob

namespace CatchAudit

class FileSystem (σ : Type) where
  exists? : σ → Path → Except FileError Bool
  isFile : σ → Path → Except FileError Bool
  isDirectory : σ → Path → Except FileError Bool
  read : σ → Path → Except FileError (List UInt8)
  /-- The paths that a glob finds below a directory. -/
  glob : σ → Glob → Path → Except FileError (List Path)

instance : FileSystem FileTree where
  exists? := FileTree.exists?
  isFile := FileTree.isFile
  isDirectory := FileTree.isDirectory
  read := FileTree.read
  glob t g p := g.find t p

end CatchAudit
