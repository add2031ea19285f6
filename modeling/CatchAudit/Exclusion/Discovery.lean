/-
From the files and directories that are named to the dumps to check: a sorted list without
repetitions. A file that is named is always taken; directories are searched by globs, and what is
excluded is left out.
-/
import CatchAudit.Exclusion.Excluder
import CatchAudit.Files.FileSystem

namespace CatchAudit.Discovery

/-- Puts a path into a sorted list, once. -/
def insert (p : Path) : List Path → List Path
  | [] => [p]
  | q :: rest => if p.less q then p :: q :: rest else if q.less p then q :: insert p rest else q :: rest

def insertAll (found : List Path) (paths : List Path) : List Path :=
  paths.foldl (fun found p => insert p found) found

/-- The glob for dumps. -/
def defaultIncludes : Document := .list [.text "**/*.scope.json"]

variable {σ : Type} [FileSystem σ]

/-- The files below a directory that a glob finds, by `FileSystem.isFile`. -/
def globFiles (t : σ) (directory : Path) (glob : Document) : Except Failure (List Path) :=
  match glob with
  | .text s => match Glob.parse s with
    | .ok g => Settings.ofFile do (← FileSystem.glob t g directory).filterM fun p => FileSystem.isFile t p
    | .error e => .error (.glob e)
  | d => .error (.globShape d)

/-- Adds the `globFiles` of globs below a directory, less those that the excluder leaves out. -/
def searchAll (t : σ) (x : Excluder) (directory : Path) (found : List Path) :
    List Document → Except Failure (List Path)
  | [] => .ok found
  | glob :: rest => do
    let files ← globFiles t directory glob
    searchAll t x directory (insertAll found (x.filter files)) rest

/-- Adds what the named paths stand for. -/
def discoverFrom (t : σ) (x : Excluder) (includes : Document) (found : List Path) :
    List Path → Logged Failure (List Path)
  | [] => return found
  | p :: rest => do
    if ← Excluder.ofFile (FileSystem.isFile t p) then discoverFrom t x includes (insert p found) rest
    else if !(← Excluder.ofFile (FileSystem.isDirectory t p)) then
      Logged.note [⟨.warning, "No such file or directory: " ++ p.text⟩]
      discoverFrom t x includes found rest
    else
      let globs ← match includes.iterate with
        | .ok globs => pure globs
        | .error f => throw (.fault f)
      let found ← match searchAll t x p found globs with
        | .ok found => pure found
        | .error e => throw e
      discoverFrom t x includes found rest

/-- The dumps that the named paths stand for, by `discoverFrom` with an empty list. -/
def discover (t : σ) (x : Excluder) (includes : Document) (paths : List Path) :
    Logged Failure (List Path) :=
  discoverFrom t x (if includes.truthy then includes else defaultIncludes) [] paths

end CatchAudit.Discovery
