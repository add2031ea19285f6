/-
Unhandled catch bindings: which bindings to report, where to report them, and catch clauses that
declare no binding at all.
-/
import CatchAudit.Analysis.Usage
import CatchAudit.Log
import CatchAudit.Settings.Options

namespace CatchAudit

namespace Variable

/-- Whether a catch binding is to be reported: it is declared, its name is not `isIgnored`, and it is not `isUsed`. -/
def isUnhandled (forest : Forest) (options : RuleOptions) (v : Variable) : Except Fault Bool :=
  match v.definitions with
  | [] => .ok false
  | d :: _ => do
    let name ← d.name.field "name"
    if ← options.isIgnored name then return false
    else return !(← v.isUsed forest)

/-- The record that a binding without a declaration leaves. -/
def undeclaredRecord (v : Variable) : Log :=
  if v.definitions.isEmpty then
    [⟨.debug, "Skipping " ++ Text.quoted v.name ++ ": binding has no definitions"⟩]
  else []

/-- The writes from the function in which the variable is declared. -/
def ownWrites (forest : Forest) (v : Variable) : List Reference :=
  v.references.filter fun r =>
    r.write && forest.variableScope r.scope == forest.variableScope v.scope

/-- The place to blame: the last of the `ownWrites`, otherwise the declaration. -/
def blame (forest : Forest) (v : Variable) : Except Fault Place :=
  match (v.ownWrites forest).getLast? with
  | some r => .ok r.identifier
  | none => match v.identifiers with
    | p :: _ => .ok p
    | [] => .error .listIndexOutOfRange

end Variable

namespace Forest

/-- The catch binding of a scope, if it `isUnhandled`. -/
def unhandledIn (f : Forest) (options : RuleOptions) (s : Nat) : Logged Fault (List Variable) := do
  match (f.scope? s).bind Scope.catchBinding? with
  | none => return []
  | some v =>
    Logged.note v.undeclaredRecord
    let report ← v.isUnhandled f options
    return if report then [v] else []

/-- The unhandled bindings of scopes, by `unhandledIn` and in order. -/
def unhandledOf (f : Forest) (options : RuleOptions) : List Nat → Logged Fault (List Variable)
  | [] => return []
  | s :: rest => do
    let found ← f.unhandledIn options s
    let others ← f.unhandledOf options rest
    return found ++ others

/-- The unhandled bindings of a scope and all scopes inside it, in the order of `walk`. -/
def unhandled (f : Forest) (options : RuleOptions) (s : Nat) : Logged Fault (List Variable) :=
  f.unhandledOf options (f.walk s)

end Forest

namespace Place

/-- A catch clause that declares no binding. -/
def isBareCatch (p : Place) : Bool :=
  p.node.isKind "CatchClause" &&
    match p.operand? "param" with
    | none | some (.data .null) => true
    | _ => false

/-- The catch clauses at or below a place for which `isBareCatch` holds, in pre-order. -/
def bareCatches (p : Place) : List Place := p.walk.filter isBareCatch

end Place

end CatchAudit
