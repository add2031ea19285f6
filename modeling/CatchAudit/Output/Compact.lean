/-
Results on one line a problem, with a count at the end.
-/
import CatchAudit.Report.Results

namespace CatchAudit.Compact

def severityLabel : Severity → String
  | .warn => "Warning"
  | _ => "Error"

/-- A line or a column; 0 if there is none. -/
def orZero : Document → Except Fault String
  | .null => .ok "0"
  | d => d.toText

def lineText (file line column label text : String) : String :=
  file ++ ": line " ++ line ++ ", col " ++ column ++ ", " ++ label ++ " - " ++ text

def diagnosticLine (file : String) (d : Diagnostic) : Except Fault String := do
  let column ← d.column
  let line ← orZero d.line
  let column ← orZero column
  return lineText file line column (severityLabel d.severity) (d.message ++ " (" ++ d.ruleId ++ ")")

/-- The lines of a report: its error alone, or its diagnostics in order, each by `diagnosticLine`. -/
def reportLines (r : FileReport) : Except Fault (List String) :=
  match r.failed, r.error with
  | true, some e => .ok [lineText r.file.text "0" "0" "Error" e]
  | _, _ => do (← r.sorted).mapM (diagnosticLine r.file.text)

def problemCount (r : Results) : Nat := r.diagnosticCount + r.failures.length

/-- The count of problems, after an empty line; nothing if there are none. -/
def countLines (n : Nat) : List String :=
  if n = 0 then [] else ["", toString n ++ " problem" ++ if n = 1 then "" else "s"]

def text (r : Results) : Except Fault String := do
  let lines ← r.reports.mapM reportLines
  return "\n".intercalate (lines.flatten ++ countLines (problemCount r))

end CatchAudit.Compact
