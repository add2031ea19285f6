/-
Settings: where they are read from, and what they say about options, severity and files. A project
file holds them in a table of its own.
-/
import CatchAudit.Failure
import CatchAudit.Files.FileSystem
import CatchAudit.Severity
import CatchAudit.Settings.Options

namespace CatchAudit.Settings

variable [TomlReader] {σ : Type} [FileSystem σ]

/-- The file that may hold the settings of a project. -/
def projectFile : String := "pyproject.toml"

def ofFault {α : Type} : Except Fault α → Except Failure α
  | .ok a => .ok a
  | .error f => .error (.fault f)

def ofFile {α : Type} : Except FileError α → Except Failure α
  | .ok a => .ok a
  | .error e => .error (.file e)

/-- The table of a `projectFile` that holds the settings, empty if it is missing. -/
def projectTable (d : Document) : Except Fault Document := do
  (← d.getD "tool" (.object [])).getD "catchlint" (.object [])

/-- The bytes of a settings file as text, by `decodeUtf8`. -/
def readText (t : σ) (p : Path) : Except Failure (List Char) :=
  match FileSystem.read t p with
  | .error e =>
    .error (if e.reason = .nullInPath then .file e else .settings (.unreadable p.text e))
  | .ok bytes => match Text.decodeUtf8 bytes with
    | .error f => .error (.notUtf8 f)
    | .ok cs => .ok cs

/-- The document in a settings file: by the `TomlReader` if its name says so, by `Json.parse` otherwise. -/
def readDocument (t : σ) (p : Path) : Except Failure Document := do
  let cs ← readText t p
  if p.suffix = ".toml" then
    match TomlReader.read cs with
    | .error (.fault f) => .error (.fault f)
    | .error (.malformed words) => .error (.settings (.notToml p.text words))
    | .ok members =>
      if p.name = projectFile then ofFault (projectTable (.object members)) else return .object members
  else
    let text := Text.plainLineEnds cs
    match Json.parse text with
    | .error f =>
      match f.reason with
      | .longNumber digits => .error (.fault (.longInteger digits))
      | _ => .error (.settings (.notJson p.text f text))
    | .ok d => return d

/-- The settings in a file, by `readDocument`, which must be an object. -/
def load (t : σ) (p : Path) : Except Failure Document := do
  match ← readDocument t p with
  | .object members => return .object members
  | _ => .error (.settings (.fileNotAnObject p.text))

/-- The settings that `load` finds in the `projectFile`, empty if there is none. -/
def ofProject (t : σ) (root : Path) : Except Failure Document := do
  let file := root.child projectFile
  if ← ofFile (FileSystem.exists? t file) then load t file else return .object []

/-- The names under which a pattern may stand beside the options. -/
def patternNames : List String := ["ignorePattern", "ignore-pattern", "ignore_pattern"]

/-- A pattern beside the options wins over one among them, and the last of its names over the
others. -/
def withPattern (settings : Document) (options : List (Document × Document)) (name : String) :
    List (Document × Document) :=
  match settings.member? name with
  | some d => Document.setEntry (.text "ignorePattern") d options
  | none => options

/-- The options for the rule by their keys, with the pattern beside them by `withPattern`. -/
def ruleOptions (settings : Document) : Except Fault (List (Document × Document)) := do
  let options ← (← settings.getD "options" (.object [])).entries
  return patternNames.foldl (withPattern settings) options

def severityValue (settings : Document) : Except Fault Document :=
  settings.getD "severity" (.text "error")

/-- A severity that `Severity.ofDocument` does not know by its number or name is an error of the settings. -/
def severityOf (d : Document) : Except Failure Severity :=
  match Severity.ofDocument d with
  | .ok s => .ok s
  | .error f =>
    match f.family with
    | .key | .value =>
      if d.isWritable then .error (.settings (.badSeverity d)) else .error (.fault .longNumber)
    | _ => .error (.fault f)

/-- The exclusion patterns. -/
def excludes (settings : Document) : Except Fault (List Document) := do
  (← settings.getD "exclude" (.list [])).iterate

/-- The globs of the files to look for in directories. -/
def includes (settings : Document) : Except Fault Document :=
  settings.getD "include" (.list [.text "**/*.scope.json"])

end CatchAudit.Settings
