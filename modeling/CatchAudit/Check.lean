/-
Checking dumps: every file is loaded and analyzed. A dump that is rejected ends up in its report; any
other failure ends the check.
-/
import CatchAudit.Report.Results
import CatchAudit.Rule.Registry

namespace CatchAudit.Check

/-- The version of the program. -/
def version : String := "0.1.0"

/-- When a check began and how long it took. -/
structure Clock where
  startedAt : String
  durationMs : Int

/-- The report of one file: what `Dump.load` rejects has an error, and what it loads has the diagnostics of `analyze`.
-/
def checkFile (t : FileTree) (options : RuleOptions) (severity : Severity) (p : Path) :
    Logged Failure FileReport := do
  let (loaded, log) := Dump.load t p
  Logged.note log
  match loaded with
  | .error (.rejected e) =>
    Logged.note [⟨.error, e.message⟩]
    return ⟨p, [], some e.message⟩
  | .error e => throw (.load e)
  | .ok dump =>
    let found ← (analyze dump.forest options severity UnhandledCatch.ruleName).mapError Failure.fault
    Logged.note [⟨.debug, p.text ++ ": " ++ toString found.length ++ " diagnostic(s)"⟩]
    return ⟨p, found, none⟩

def checkFiles (t : FileTree) (options : RuleOptions) (severity : Severity) :
    List Path → Logged Failure (List FileReport)
  | [] => return []
  | p :: rest => do
    let report ← checkFile t options severity p
    let others ← checkFiles t options severity rest
    return report :: others

/-- The results of `checkFiles`, with what is known of the check. -/
def run (t : FileTree) (clock : Clock) (options : RuleOptions) (severity : Severity)
    (files : List Path) : Logged Failure Results := do
  let reports ← checkFiles t options severity files
  return ⟨some ⟨clock.startedAt, version, files.length, clock.durationMs, options.source?⟩, reports⟩

end CatchAudit.Check
