/-
Whether a variable is meaningfully read. The references are gone through in order; a right-hand
side may be pending in between.
-/
import CatchAudit.Analysis.SelfAssignment

namespace CatchAudit

namespace Reference

/-- The loop that a reference may be the variable of: the parent of the identifier, or of the
declaration around it. -/
def loopHead? (ref : Reference) : Option Place :=
  match ref.identifier.parent? with
  | none => none
  | some target =>
    if target.node.isKind "VariableDeclarator" then target.parent?.bind (·.parent?) else some target

/-- Whether the first statement of a loop's body returns; a body that is empty counts as well. -/
def leavesAtOnce (loop : Place) : Except Fault Bool := do
  let body ← loop.field "body"
  let kind ← body.kind
  if kind.isText "EmptyStatement" then return true
  else match body with
    | .place block =>
      if kind.isText "BlockStatement" then do
        if !(← block.field "body").truthy then return true
        else return (← (← block.firstItem "body").kind).isText "ReturnStatement"
      else return kind.isText "ReturnStatement"
    | _ => return false

/-- The variable of a `for … in` loop that is left at once. -/
def isForIn (ref : Reference) : Except Fault Bool :=
  match ref.loopHead? with
  | none => .ok false
  | some loop => if loop.node.isKind "ForInStatement" then leavesAtOnce loop else .ok false

end Reference

/-- What is carried from one reference to the next. -/
structure Usage where
  pending : Option Operand
  used : Bool

namespace Usage

def start : Usage := ⟨none, false⟩

/-- Takes one reference into account, with the right-hand side that is by `nextPending` pending after it. -/
def step (forest : Forest) (u : Usage) (ref : Reference) : Except Fault Usage := do
  if ← ref.isForIn then return ⟨u.pending, true⟩
  else
    let forItself ← ref.isReadForItself u.pending
    let pending ← ref.nextPending forest u.pending
    return ⟨pending, ref.read && !forItself⟩

/-- Whether one of the references is a use, going on `step` by `step` from a state. -/
def anyUse (forest : Forest) (u : Usage) : List Reference → Except Fault Bool
  | [] => .ok false
  | ref :: rest => do
    let u ← u.step forest ref
    if u.used then return true else anyUse forest u rest

end Usage

/-- Whether some reference to the variable is a genuine read, by `anyUse`. -/
def Variable.isUsed (forest : Forest) (v : Variable) : Except Fault Bool :=
  Usage.start.anyUse forest v.references

end CatchAudit
