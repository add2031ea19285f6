/-
Diagnostics: a problem that a rule reports against a syntax node.
-/
import CatchAudit.Document.Access
import CatchAudit.Severity
import CatchAudit.Syntax.Node

namespace CatchAudit

/-- What a diagnostic complains about. -/
inductive DiagnosticKind where
  | unhandledBinding
  | missingBinding
  deriving DecidableEq, Repr

namespace DiagnosticKind

def all : List DiagnosticKind := [.unhandledBinding, .missingBinding]

def name : DiagnosticKind → String
  | .unhandledBinding => "unhandled-binding"
  | .missingBinding => "missing-catch-binding"

def ofDocument (d : Document) : Except Fault DiagnosticKind :=
  match all.find? fun k => d.isText k.name with
  | some k => .ok k
  | none => .error (.notAChoice d "DiagnosticKind")

end DiagnosticKind

structure Diagnostic where
  ruleId : String
  kind : DiagnosticKind
  messageId : String
  message : String
  node : Node
  data : List (String × Document)
  severity : Severity

namespace Diagnostic

/-- The name of the offending binding; null if there is none. -/
def name (d : Diagnostic) : Document := (memberOf? "errorName" d.data).getD .null

/-- What is added to the message; null if nothing is. -/
def suffix (d : Diagnostic) : Document :=
  let added := (memberOf? "additional" d.data).getD .null
  if added.truthy then added else .null

/-- The line; null without a location. -/
def line (d : Diagnostic) : Document :=
  match d.node.location with
  | some l => l.start.line
  | none => .null

/-- The column, counted from one; null without a location. -/
def column (d : Diagnostic) : Except Fault Document :=
  match d.node.location with
  | some l => l.start.column.successor
  | none => .ok .null

/-- Diagnostics are ordered by `line` and `column`; those without a location come by their offset, as if in line 0. -/
def sortKey (d : Diagnostic) : Document × Document :=
  match d.node.location with
  | some l => (l.start.line, l.start.column)
  | none => (.int 0, .int d.node.span.start)

/-- Whether by `sortKey` a diagnostic comes before another one. -/
def less (a b : Diagnostic) : Except Fault Bool :=
  let (line, column) := a.sortKey
  let (otherLine, otherColumn) := b.sortKey
  Document.lessItems [line, column] [otherLine, otherColumn]

/-- The line and the column, if they are whole numbers. -/
def position? (d : Diagnostic) : Option (Int × Int) :=
  match d.sortKey with
  | (.int line, .int column) => some (line, column)
  | _ => none

/-- Whether a diagnostic comes first or both stand at one `position?`, for those with whole numbers. -/
def notAfter (a b : Diagnostic) : Bool :=
  match a.position?, b.position? with
  | some (line, column), some (otherLine, otherColumn) =>
    decide (line < otherLine) || (line == otherLine && decide (column ≤ otherColumn))
  | _, _ => true

def toDocument (d : Diagnostic) : Except Fault Document := do
  let column ← d.column
  return .object [
    ("ruleId", .text d.ruleId),
    ("kind", .text d.kind.name),
    ("messageId", .text d.messageId),
    ("message", .text d.message),
    ("severity", .int d.severity.value),
    ("nodeType", d.node.kind),
    ("range", .list [.int d.node.span.start, .int d.node.span.stop]),
    ("line", d.line),
    ("column", column),
    ("data", .object d.data)]

end Diagnostic

end CatchAudit
