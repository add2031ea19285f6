/-
Sessions: a command carried out on a file tree. What has been shown, logged and written stays when a
session ends early.
-/
import CatchAudit.Check
import CatchAudit.CommandLine.Command
import CatchAudit.Exclusion.Discovery
import CatchAudit.Json.Writer
import CatchAudit.Output.Compact
import CatchAudit.Output.ResultsTree

namespace CatchAudit.CommandLine

variable [TomlReader] [LineReader] [Console] [ArgumentReader]

/-- What a session has done so far. -/
structure Progress where
  files : FileTree
  /-- Results as plain text. -/
  plain : String := ""
  /-- Results as drawings. -/
  drawn : String := ""
  /-- Notes to the user beside the results. -/
  notes : String := ""
  log : Log := []
  /-- The results file that was written. -/
  written : Option Path := none

/-- Why a session ends. -/
inductive Ending where
  | exit (code : Nat)
  | failed (f : Failure)

abbrev Session := ExceptT Ending (StateM Progress)

namespace Session

def ofFailure {α : Type} : Except Failure α → Session α
  | .ok a => return a
  | .error f => throw (.failed f)

def ofFault {α : Type} : Except Fault α → Session α
  | .ok a => return a
  | .error f => throw (.failed (.fault f))

def ofFile {α : Type} : Except FileError α → Session α
  | .ok a => return a
  | .error e => throw (.failed (.file e))

/-- Takes over the records of a `Logged` computation with its outcome. -/
def ofLogged {α : Type} (x : Logged Failure α) : Session α := do
  let (result, log) := x.outcome
  modify fun p => { p with log := p.log ++ log }
  ofFailure result

def printPlain (s : String) : Session Unit := modify fun p => { p with plain := p.plain ++ s ++ "\n" }

def draw (s : String) : Session Unit := modify fun p => { p with drawn := p.drawn ++ s }

/-- Shows a marked-up note, which the `Console` draws as an outline of one item. -/
def note (s : String) : Session Unit := do
  let shown ← ofFailure (Console.shown s)
  modify fun p => { p with notes := p.notes ++ Console.outlineText (.item shown []) }

def exit {α : Type} (code : Nat) : Session α := throw (.exit code)

/-! ## Settings -/

variable {σ : Type} [FileSystem σ]

/-- What the settings and the command line say together. -/
structure Setup where
  settings : Document
  options : RuleOptions
  severity : Severity

/-- The settings of the file that is asked for, or by `Settings.ofProject` those of the project. -/
def settingsOf (t : σ) (root : Path) (r : Request) : Except Failure Document :=
  match r.settings with
  | some p => Settings.load t p
  | none => Settings.ofProject t root

/-- The `Settings.ruleOptions`, with a pattern on the command line winning over theirs. -/
def optionsOf (r : Request) (settings : Document) : Except Failure RuleOptions := do
  let entries ← Settings.ofFault (Settings.ruleOptions settings)
  RuleOptions.ofEntries (match r.pattern with
    | some s => Document.setEntry (.text "ignorePattern") (.text s) entries
    | none => entries)

def setupOf (t : σ) (root : Path) (r : Request) : Except Failure Setup := do
  let settings ← settingsOf t root r
  let options ← optionsOf r settings
  let severity ← Settings.severityOf (← Settings.ofFault (Settings.severityValue settings))
  return ⟨settings, options, severity⟩

/-- The `setupOf` a request. Errors of the settings are shown and end the session. -/
def setup (t : σ) (root : Path) (r : Request) : Session Setup :=
  match setupOf t root r with
  | .ok s => return s
  | .error (.settings e) => do
    note ("[red]Configuration error:[/] " ++ e.message)
    exit 2
  | .error f => throw (.failed f)

/-! ## Results -/

/-- Writes results to a file by `FileTree.write`; directories are made for it. A file that could be opened is there,
if empty, even when the results cannot be written down. -/
def save (results : Results) (p : Path) : Session Unit := do
  let t := (← get).files
  let t ← ofFile (t.ensureDirectory p.parent)
  let t ← ofFile (t.write p [])
  modify fun s => { s with files := t, written := some p }
  let document ← ofFault results.toDocument
  let bytes := Text.encodeUtf8 (← ofFault (Json.toText document)).toList
  modify fun s => { s with files := t.put p (.file bytes) }

def display (results : Results) (root : Path) : Format → Session Unit
  | .json => do
    let document ← ofFault results.toDocument
    printPlain (← ofFault (Json.toText document))
  | .tree => do
    draw (Console.outlineText (← ofFailure (ResultsTree.outline root results)))
    draw (Console.outlineText (ResultsTree.summary results))
  | .compact => do
    let text ← ofFault (Compact.text results)
    if text.isEmpty then return ()
    printPlain text

/-! ## Commands -/

/-- The dumps that a request is about, by `Discovery.discover`. -/
def dumps (t : FileTree) (root : Path) (r : Request) (settings : Document) :
    Session (List Path) := do
  let excludes ← ofFault (Settings.excludes settings)
  let excluder ← ofLogged (Excluder.load t root r.includeIgnored (.list excludes))
  let includes ← ofFault (Settings.includes settings)
  ofLogged (Discovery.discover t excluder includes r.paths)

def check (clock : Check.Clock) (r : Request) : Session Unit := do
  let t := (← get).files
  let root : Path := ⟨"/", t.current⟩
  let s ← setup t root r
  let files ← dumps t root r s.settings
  if files.isEmpty then
    note "[yellow]No scope dumps found.[/]"
    exit 0
  let results ← ofLogged (Check.run t clock s.options s.severity files)
  match r.output with
  | none => pure ()
  | some p =>
    save results p
    note ("[green]Results saved to:[/] " ++ p.text)
  display results root r.format
  exit results.exitCode

/-- The names of the `presets` that select a rule. -/
def presetNames (id : String) : List String :=
  (presets.filter fun p => p.2.any fun rule => rule.1 == id).map (·.1)

/-- The rules that are `builtin`, one in each row. -/
def rulesTable : Table where
  title := "catchlint rules"
  heading := ["Rule", "Type", "Description", "Presets"]
  rows := Registry.builtin.all.map fun rule =>
    [rule.id, rule.info.type, rule.info.description, ", ".intercalate (presetNames rule.id)]

def command (clock : Check.Clock) : Command → Session Unit
  | .version => draw ("catchlint version " ++ Check.version ++ "\n")
  | .rules => draw (Console.tableText rulesTable)
  | .check r => check clock r

end Session

/-- What a command line did and how it ended. -/
structure Outcome where
  exitCode : Nat
  usage : Option UsageError
  failure : Option Failure
  progress : Progress

/-- Debug records are kept only when they are asked for. -/
def keptLog : Command → Log → Log
  | .check r, log => if r.verbose then log else log.notable
  | _, log => log.notable

/-- Carries out the `Command` that the arguments give on a file tree. -/
def run (t : FileTree) (clock : Check.Clock) (args : List String) : Outcome :=
  match Command.parse args with
  | .error (.nullInPath path) => ⟨1, none, some (.file ⟨.nullInPath, path⟩), { files := t }⟩
  | .error e => ⟨2, some e, none, { files := t }⟩
  | .ok c =>
    let (ending, progress) := (Session.command clock c).run { files := t }
    let progress := { progress with log := keptLog c progress.log }
    match ending with
    | .ok () => ⟨0, none, none, progress⟩
    | .error (.exit code) => ⟨code, none, none, progress⟩
    | .error (.failed f) => ⟨1, none, some f, progress⟩

end CatchAudit.CommandLine
