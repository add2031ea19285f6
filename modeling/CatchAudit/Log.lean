/-
Log records, in the order in which they arise, and computations that leave such records, whether
they succeed or not.
-/

namespace CatchAudit

inductive Level where
  | debug
  | warning
  | error
  deriving DecidableEq, Repr

def Level.name : Level → String
  | .debug => "DEBUG"
  | .warning => "WARNING"
  | .error => "ERROR"

structure LogRecord where
  level : Level
  text : String
  deriving DecidableEq, Repr

abbrev Log := List LogRecord

/-- The records that are shown when nothing but warnings and errors is asked for. -/
def Log.notable (log : Log) : Log := log.filter fun r => r.level != .debug

/-- A computation that may fail and leaves log records in either case. -/
abbrev Logged (ε : Type) := ExceptT ε (StateM Log)

namespace Logged

/-- Leaves records. -/
def note {ε : Type} (records : Log) : Logged ε Unit := modify (· ++ records)

/-- The outcome and the records. -/
def outcome {ε α : Type} (x : Logged ε α) : Except ε α × Log := x.run []

/-- The same computation with its errors seen as errors of another kind. -/
def mapError {ε δ α : Type} (f : ε → δ) (x : Logged ε α) : Logged δ α := do
  let log ← get
  let (result, log) := x.run log
  set log
  match result with
  | .ok a => return a
  | .error e => throw (f e)

end Logged

end CatchAudit
