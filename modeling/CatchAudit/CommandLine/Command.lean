/-
Commands: what a command line asks for.
-/
import CatchAudit.CommandLine.Arguments
import CatchAudit.Files.Path

namespace CatchAudit.CommandLine

/-- How results are shown. -/
inductive Format where
  | compact
  | json
  | tree
  deriving DecidableEq, Repr

namespace Format

def all : List Format := [.compact, .json, .tree]

def name : Format → String
  | .compact => "compact"
  | .json => "json"
  | .tree => "tree"

def ofName (s : String) : Except UsageError Format :=
  match all.find? fun f => f.name == s with
  | some f => .ok f
  | none => .error (.unknownFormat s)

end Format

/-- A check that is asked for. -/
structure Request where
  /-- Dumps, and directories to look for dumps in. -/
  paths : List Path
  /-- A pattern that wins over the one in the settings. -/
  pattern : Option String
  /-- The settings file, if it is not that of the project. -/
  settings : Option Path
  format : Format
  /-- Where results are written besides being shown. -/
  output : Option Path
  includeIgnored : Bool
  verbose : Bool
  deriving DecidableEq, Repr

inductive Command where
  | version
  | rules
  | check (request : Request)
  deriving DecidableEq, Repr

namespace Command

def versionFlag : Flag := ⟨"--version", some 'V', false⟩
def patternFlag : Flag := ⟨"--ignore-pattern", none, true⟩
def settingsFlag : Flag := ⟨"--config", some 'c', true⟩
def formatFlag : Flag := ⟨"--format", some 'f', true⟩
def outputFlag : Flag := ⟨"--output", some 'o', true⟩
def includeFlag : Flag := ⟨"--include-ignored", none, false⟩
def verboseFlag : Flag := ⟨"--verbose", some 'v', false⟩

def checkFlags : List Flag :=
  [patternFlag, settingsFlag, formatFlag, outputFlag, includeFlag, verboseFlag]

/-- A path must not hold a null character. -/
def checkPath (path : String) : Except UsageError Unit :=
  if path.toList.contains '\x00' then .error (.nullInPath path) else .ok ()

/-- The value of an option must be one that the option can have: a path by `checkPath`, or a known `Format`. -/
def checkValue (g : Given) : Except UsageError Unit :=
  match g.value with
  | none => .ok ()
  | some value =>
    if g.flag = formatFlag then do
      let _ ← Format.ofName value
    else if g.flag = settingsFlag || g.flag = outputFlag then checkPath value
    else .ok ()

variable [ArgumentReader]

/-- A check from the arguments behind its name: at least one path, and a known `Format`. -/
def parseCheck (args : List String) : Except UsageError Request := do
  let a ← ArgumentReader.read checkFlags true args
  a.settled.forM checkValue
  a.others.forM checkPath
  let format ← match a.value? formatFlag with
    | some s => Format.ofName s
    | none => pure .compact
  if a.others.isEmpty then throw .missingPaths
  return {
    paths := a.others.map Path.parse
    pattern := a.value? patternFlag
    settings := (a.value? settingsFlag).map Path.parse
    format
    output := (a.value? outputFlag).map Path.parse
    includeIgnored := a.has includeFlag
    verbose := a.has verboseFlag }

/-- The list of rules takes no arguments: the `ArgumentReader` may find none. -/
def parseRules (args : List String) : Except UsageError Unit := do
  let a ← ArgumentReader.read [] true args
  match a.others with
  | [] => return ()
  | arg :: _ => throw (.unexpectedArgument arg)

/-- The `Command` of a command line. A question for the version wins over what follows. -/
def parse (args : List String) : Except UsageError Command := do
  let a ← ArgumentReader.read [versionFlag] false args
  if a.has versionFlag then return .version
  match a.others with
  | [] => throw .missingCommand
  | "check" :: rest => return .check (← parseCheck rest)
  | "rules" :: rest =>
    parseRules rest
    return .rules
  | name :: _ => throw (.unknownCommand name)

end Command

end CatchAudit.CommandLine
