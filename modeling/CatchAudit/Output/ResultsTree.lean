/-
Results as an outline: directories, files, and the problems of each file; and a summary by kind.
-/
import CatchAudit.Output.Console
import CatchAudit.Report.Results
import CatchAudit.Text.Ordered

namespace CatchAudit.ResultsTree

/-- What is shown of a directory: directories inside it, and files with their problems. -/
inductive Listing where
  | directory (name : String) (entries : List Listing)
  | file (name : String) (problems : List String)

/-! ## Problems -/

/-- The line of a diagnostic; its name must be a text. -/
def problemText (d : Diagnostic) : Except Fault String := do
  let name ← match d.name with
    | .text s => pure (if s.isEmpty then "catch" else s)
    | other => if other.truthy then throw .notPrintable else pure "catch"
  let line ← d.line.toText
  let column ← (← d.column).toText
  return "x " ++ name ++ " (" ++ d.kind.name ++ ", line " ++ line ++ ", col " ++ column ++ ")"

/-- The lines of a report: its error alone, or its diagnostics in order, each by `problemText`. -/
def problems (r : FileReport) : Except Fault (List String) :=
  match r.failed, r.error with
  | true, some e => .ok ["! " ++ e]
  | _, _ => do (← r.sorted).mapM problemText

/-! ## Directories -/

/-- The path of a report as seen from the root of the project, if it lies there. -/
def shownPath (root : Path) (r : FileReport) : Path := (r.file.relativeTo? root).getD r.file

/-- Reports by the path they are shown under, sorted; of several under one path the last counts. -/
def insertReport (root : Path) (r : FileReport) : List (Path × FileReport) → List (Path × FileReport)
  | [] => [(shownPath root r, r)]
  | (q, other) :: rest =>
    let p := shownPath root r
    if p.less q then (p, r) :: (q, other) :: rest
    else if q.less p then (q, other) :: insertReport root r rest
    else (p, r) :: rest

/-- The reports with something to show, each put by `insertReport` where its path is in order. -/
def shownReports (root : Path) (r : Results) : List (Path × FileReport) :=
  (r.reports.filter fun x => !x.diagnostics.isEmpty || x.failed).foldl
    (fun shown x => insertReport root x shown) []

/-- Changes the first directory of this name, or adds one. -/
def inDirectory (name : String) (change : List Listing → List Listing) :
    List Listing → List Listing
  | [] => [.directory name (change [])]
  | .directory other entries :: rest =>
    if other = name then .directory other (change entries) :: rest
    else .directory other entries :: inDirectory name change rest
  | entry :: rest => entry :: inDirectory name change rest

/-- Adds a file inside directories. -/
def addFile (file : Listing) : List String → List Listing → List Listing
  | [], entries => entries ++ [file]
  | name :: rest, entries => inDirectory name (addFile file rest) entries

/-- The listing of the `shownReports`, each added by `addFile` with its `problems`. -/
def listings (root : Path) (r : Results) : Except Fault (List Listing) :=
  (shownReports root r).foldlM (fun entries (p, report) => do
    return addFile (.file p.name (← problems report)) p.components.dropLast entries) []

/-! ## Outlines -/

variable [Console]

/-- A label in a style, as the `Console` shows it. -/
def styled (style text : String) : Except Failure String :=
  Console.shown ("[" ++ style ++ "]" ++ text ++ "[/]")

mutual
def outlineOf : Listing → Except Failure Outline
  | .directory name entries => do
    let label ← styled "bold blue" (name ++ "/")
    return .item label (← outlinesOf entries)
  | .file name problems => do
    let label ← styled "yellow" name
    return .item label (problems.map fun p => .item p [])

def outlinesOf : List Listing → Except Failure (List Outline)
  | [] => .ok []
  | x :: rest => do
    let first ← outlineOf x
    return first :: (← outlinesOf rest)
end

/-- The name of a directory, or the whole of it if it has none. -/
def rootName (root : Path) : String := if root.name.isEmpty then root.text else root.name

/-- The outline of the `listings` of results, below the name of the project. -/
def outline (root : Path) (r : Results) : Except Failure Outline := do
  let entries ← match listings root r with
    | .ok entries => pure entries
    | .error f => throw (.fault f)
  let label ← styled "bold" (rootName root)
  return .item label (← outlinesOf entries)

/-! ## Summary -/

/-- How many there are of something. -/
def countText (what : String) (n : Nat) (unit : String) : String :=
  what ++ " (" ++ toString n ++ " " ++ unit ++ ")"

/-- The `byKind` counts, sorted by name. -/
def kindCounts (r : Results) : List (String × Nat) :=
  (Text.sorted (r.byKind.map (·.1))).map fun name => (name, (memberOf? name r.byKind).getD 0)

def summary (r : Results) : Outline :=
  let kinds := (kindCounts r).map fun (name, n) => countText name n "items"
  let failed := r.failures.length
  let unreadable := if failed = 0 then [] else [countText "unreadable dumps" failed "files"]
  .item "Catch Handling Summary" ((kinds ++ unreadable).map fun label => .item label [])

end CatchAudit.ResultsTree
