/-
Which files of a project are left out: by default, by its ignore file, by its project file, and by
lines given in addition.
-/
import CatchAudit.Exclusion.Rule
import CatchAudit.Log
import CatchAudit.Settings.Load

namespace CatchAudit

structure Excluder where
  root : Path
  /-- Nothing is left out. -/
  includeIgnored : Bool
  patterns : List Document
  /-- Where the patterns come from. -/
  sources : List String
  rules : List ExclusionRule

namespace Excluder

variable [TomlReader] [LineReader] {σ : Type} [FileSystem σ]

/-- What is always left out. -/
def defaults : List String :=
  ["node_modules", ".git", ".venv", "venv", "__pycache__", "coverage", "build", "dist"]

/-- Patterns with the source they come from, if there is one. -/
abbrev Found := List Document × List String

/-- The lines of an ignore file that count, without the blanks around them. -/
def ignoreLines (content : List Char) : List String :=
  (Text.lines content).filterMap fun line =>
    let body := Text.trim line
    if body.isEmpty || line.head? == some '#' then none else some (String.ofList body)

def cannotRead (p : Path) (reason : String) : Log :=
  [⟨.warning, "Cannot read " ++ p.text ++ ": " ++ reason⟩]

def ofFile {α : Type} : Except FileError α → Logged Failure α
  | .ok a => return a
  | .error e => throw (.file e)

/-- The patterns of the ignore file of a project, its `ignoreLines`. -/
def ofIgnoreFile (t : σ) (root : Path) : Logged Failure Found := do
  let p := root.child ".gitignore"
  if !(← ofFile (FileSystem.exists? t p)) then return ([], [])
  else match FileSystem.read t p with
    | .error e => do
      Logged.note (cannotRead p e.message)
      return ([], [])
    | .ok bytes => match Text.decodeUtf8 bytes with
      | .error f => throw (.notUtf8 f)
      | .ok cs => return ((ignoreLines (Text.plainLineEnds cs)).map .text, [p.text])

/-- The patterns in a value: the items of a list, or the value itself. -/
def patternsIn : Document → List Document
  | .list items => items.map fun d => .text d.display
  | d => [.text d.display]

/-- The patterns in the `Settings.projectFile` of a project. -/
def ofProjectFile (t : σ) (root : Path) : Logged Failure Found := do
  let p := root.child Settings.projectFile
  if !(← ofFile (FileSystem.exists? t p)) then return ([], [])
  else match FileSystem.read t p with
    | .error e => do
      Logged.note (cannotRead p e.message)
      return ([], [])
    | .ok bytes => match Text.decodeUtf8 bytes with
      | .error f => throw (.notUtf8 f)
      | .ok cs => match TomlReader.read cs with
        | .error (.fault f) => throw (.fault f)
        | .error (.malformed words) =>
          Logged.note (cannotRead p words)
          return ([], [])
        | .ok members =>
          match Settings.projectTable (.object members) with
          | .error f => throw (.fault f)
          | .ok table => match table.get "exclude" with
            | .error f => throw (.fault f)
            | .ok value =>
              if !value.truthy then return ([], [])
              else if !value.isWritable then throw (.fault .longNumber)
              else return (patternsIn value, [p.text])

/-- The rule that the `LineReader` reads off a pattern; one that is not truthy says nothing. -/
def ruleOf (d : Document) : Except Failure (Option ExclusionRule) :=
  if !d.truthy then .ok none
  else match d with
    | .text line =>
      match LineReader.read line with
      | .ok rule => .ok rule
      | .error .malformed => .error (.exclusion line)
      | .error (.pattern source e) => .error (.pattern source e)
    | d => .error (if d.isWritable then .exclusionShape d else .fault .longNumber)

/-- The rules that patterns stand for, by `ruleOf`. -/
def rulesOf : List Document → Except Failure (List ExclusionRule)
  | [] => .ok []
  | d :: rest => do
    let rule ← ruleOf d
    let rules ← rulesOf rest
    return rule.toList ++ rules

/-- The patterns that are given in addition, if any. -/
def additional (extra : Document) : Except Failure (List Document) :=
  if !extra.truthy then .ok [] else Settings.ofFault extra.iterate

/-- The excluder with the rules of the `defaults`, of additional patterns, of those of the ignore file and of those of
the project file. -/
def make (root : Path) (extra : Document) (ignored project : Found) : Except Failure Excluder := do
  let patterns := defaults.map .text ++ (← additional extra) ++ ignored.1 ++ project.1
  let rules ← rulesOf patterns
  return ⟨root, false, patterns, "defaults" :: ignored.2 ++ project.2, rules⟩

/-- The excluder of a project, which `make` gives from additional patterns and what is found in its files. -/
def load (t : σ) (root : Path) (includeIgnored : Bool) (extra : Document) :
    Logged Failure Excluder := do
  if includeIgnored then return ⟨root, true, [], [], []⟩
  else
    let ignored ← ofIgnoreFile t root
    let project ← ofProjectFile t root
    make root extra ignored project

/-- Whether the `verdict` leaves out a path, or the name of one of its directories. A path outside the root never is
left out. -/
def excludes (x : Excluder) (p : Path) : Bool :=
  if x.includeIgnored then false
  else match p.relativeTo? x.root with
    | none => false
    | some inner =>
      ExclusionRule.verdict x.rules inner.text ||
        inner.components.dropLast.any (ExclusionRule.verdict x.rules)

/-- The files that the excluder does not leave out by `excludes`. -/
def filter (x : Excluder) (files : List Path) : List Path := files.filter fun p => !x.excludes p

end Excluder

end CatchAudit
