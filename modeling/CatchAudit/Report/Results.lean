/-
The results of a check: one report a file, with its diagnostics or the error that kept it from being
read, and what is known of the run as a whole.
-/
import CatchAudit.Files.Path
import CatchAudit.Report.Diagnostic
import CatchAudit.Sorting.Basic

namespace CatchAudit

structure FileReport where
  file : Path
  diagnostics : List Diagnostic
  /-- Why the file could not be read. -/
  error : Option String

namespace FileReport

/-- An error that says nothing counts as none. -/
def failed (r : FileReport) : Bool := r.error.any fun e => !e.isEmpty

def count (r : FileReport) (s : Severity) : Nat := r.diagnostics.countP fun d => d.severity == s

def errorCount (r : FileReport) : Nat := r.count .error

def warningCount (r : FileReport) : Nat := r.count .warn

/-- The diagnostics by line and column; those at one position keep their order. Whole numbers can always be compared,
by `notAfter`; with other positions it matters which comparison is the first to fail, and `Sorting.sort` decides. -/
def sorted (r : FileReport) : Except Fault (List Diagnostic) :=
  if r.diagnostics.all fun d => d.position?.isSome then
    .ok (r.diagnostics.mergeSort Diagnostic.notAfter)
  else Sorting.sort Diagnostic.less r.diagnostics

def textOrNull : Option String → Document
  | some s => .text s
  | none => .null

def toDocument (r : FileReport) : Except Fault Document := do
  let messages ← (← r.sorted).mapM Diagnostic.toDocument
  return .object [
    ("file", .text r.file.text),
    ("errorCount", .int r.errorCount),
    ("warningCount", .int r.warningCount),
    ("messages", .list messages),
    ("error", textOrNull r.error)]

end FileReport

structure Metadata where
  analyzedAt : String
  version : String
  files : Int
  durationMs : Int
  pattern : Option String

def Metadata.toDocument (m : Metadata) : Document :=
  .object [
    ("analyzed_at", .text m.analyzedAt),
    ("catchlint_version", .text m.version),
    ("files_analyzed", .int m.files),
    ("analysis_duration_ms", .int m.durationMs),
    ("ignore_pattern", FileReport.textOrNull m.pattern)]

structure Results where
  metadata : Option Metadata
  reports : List FileReport

namespace Results

/-- The version of the format of written results. -/
def formatVersion : String := "1.0"

def diagnostics (r : Results) : List Diagnostic := r.reports.flatMap (·.diagnostics)

def diagnosticCount (r : Results) : Nat := r.diagnostics.length

def failures (r : Results) : List FileReport := r.reports.filter (·.failed)

def hasLoadErrors (r : Results) : Bool := r.reports.any (·.failed)

/-- Adds one to the count under a name. -/
def tally (counts : List (String × Nat)) (name : String) : List (String × Nat) :=
  setMember name ((memberOf? name counts).getD 0 + 1) counts

/-- The `tally` of the diagnostics of each kind, in the order in which the kinds first appear. -/
def byKind (r : Results) : List (String × Nat) :=
  (r.diagnostics.map (·.kind.name)).foldl tally []

def toDocument (r : Results) : Except Fault Document := do
  let reports ← r.reports.mapM FileReport.toDocument
  let metadata := match r.metadata with
    | some m => [("metadata", m.toDocument)]
    | none => []
  return .object ([("version", Document.text formatVersion)] ++ metadata ++ [
    ("summary", .object [
      ("diagnostics", .int r.diagnosticCount),
      ("by_kind", .object (r.byKind.map fun (name, n) => (name, .int n)))]),
    ("results", .list reports)])

/-- The exit code for results: 2 if there are load errors by `hasLoadErrors`, 1 if there are errors. -/
def exitCode (r : Results) : Nat :=
  if r.hasLoadErrors then 2 else if r.reports.any fun p => 0 < p.errorCount then 1 else 0

end Results

end CatchAudit
