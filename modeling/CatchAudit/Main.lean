/-
The program: it reads the files that its arguments may be about, carries out the command line, and
shows and writes what came of it.
-/
import CatchAudit.CommandLine.Session
import CatchAudit.Libraries
import Std.Time

namespace CatchAudit.Main

/-- Directories are followed this deep. -/
def depthLimit : Nat := 256

/-- What is found at a path, if anything; a directory with all that is in it. Links to directories
are not followed. -/
def readEntry : (depth : Nat) → String → IO (Option Entry)
  | 0, _ => return none
  | depth + 1, path => do
    let location := (← IO.currentDir) / path
    if ← location.isDir then
      let mut entries := #[]
      for item in ← location.readDir do
        let isLink := (← item.path.symlinkMetadata).type == .symlink
        unless isLink && (← item.path.isDir) do
          match ← readEntry depth (path ++ "/" ++ item.fileName) with
          | some entry => entries := entries.push (item.fileName, entry)
          | none => pure ()
      return some (.directory entries.toList)
    else if ← location.pathExists then
      return some (.file (← IO.FS.readBinFile location).toList)
    else return none

/-- Adds what is found at a path to a file tree. -/
def addPath (t : FileTree) (path : String) : IO FileTree := do
  match ← readEntry depthLimit path with
  | some entry => return t.put (Path.parse path) entry
  | none => return t

/-- The files at the top of the current directory, and all that the arguments name. -/
def readTree (args : List String) : IO FileTree := do
  let current ← IO.currentDir
  let here := Path.parse current.toString
  let mut t : FileTree := FileTree.put ⟨[], here.parts⟩ here (.directory [])
  for item in ← current.readDir do
    unless ← item.path.isDir do
      t ← addPath t item.fileName
  for arg in args do
    unless CommandLine.Arguments.isOption arg do
      t ← addPath t arg
  return t

/-- The present time to the microsecond. -/
def timeText : IO String := do
  return (← Std.Time.PlainDateTime.now).format "uuuu-MM-dd'T'HH:mm:ss.SSSSSS"

/-- Writes the results file, if the session has one. -/
def writeResults (p : CommandLine.Progress) : IO Unit := do
  match p.written with
  | none => return ()
  | some path =>
    match p.files.read path with
    | .error _ => return ()
    | .ok bytes =>
      IO.FS.createDirAll path.parent.text
      IO.FS.writeBinFile path.text ⟨bytes.toArray⟩

/-- Prints what a command line has to show. -/
def printOutcome (o : CommandLine.Outcome) : IO Unit := do
  for record in o.progress.log do
    IO.eprintln (record.level.name ++ " " ++ record.text)
  IO.eprint o.progress.notes
  IO.print (o.progress.plain ++ o.progress.drawn)
  match o.usage, o.failure with
  | some e, _ => IO.eprintln e.message
  | none, some f => IO.eprintln ("error: " ++ f.message)
  | none, none => return ()

end CatchAudit.Main

/-- Runs the command line. The duration of a check is the time that reading its files took. -/
def main (args : List String) : IO UInt32 := do
  let began ← IO.monoMsNow
  let t ← CatchAudit.Main.readTree args
  let clock : CatchAudit.Check.Clock := ⟨← CatchAudit.Main.timeText, (← IO.monoMsNow) - began⟩
  let o := CatchAudit.CommandLine.run t clock args
  CatchAudit.Main.writeResults o.progress
  CatchAudit.Main.printOutcome o
  return UInt32.ofNat o.exitCode
