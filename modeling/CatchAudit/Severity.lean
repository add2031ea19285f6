/-
Severities: off, warn and error, also known as 0, 1 and 2.
-/
import CatchAudit.Fault
import CatchAudit.Text.Casing

namespace CatchAudit

inductive Severity where
  | off
  | warn
  | error
  deriving DecidableEq, Repr

namespace Severity

def all : List Severity := [.off, .warn, .error]

def value : Severity → Nat
  | .off => 0
  | .warn => 1
  | .error => 2

def name : Severity → String
  | .off => "OFF"
  | .warn => "WARN"
  | .error => "ERROR"

/-- The severity that a document gives by its number or by its name in any case. -/
def ofDocument : Document → Except Fault Severity
  | .int i =>
    match all.find? fun s => (s.value : Int) == i with
    | some s => .ok s
    | none => .error (.notAChoice (.int i) "Severity")
  | .bool b => .ok (if b then .warn else .off)
  | .text s =>
    let low := Text.lower s
    if low = "off" then .ok .off
    else if low = "warn" then .ok .warn
    else if low = "error" then .ok .error
    else .error (.absentMember low)
  | d => .error (.noOperation d.shape "lower")

end Severity

end CatchAudit
