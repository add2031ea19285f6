/-
Right-hand sides of self-assignments. In `err = err.toString()` the read of `err` feeds nothing but
the new value of `err`, so it is no use unless something reads the variable later.
-/
import CatchAudit.Analysis.Closure
import CatchAudit.Scope.Forest

namespace CatchAudit

namespace Reference

/-- Whether a write can be seen from elsewhere: the reference stands in another function than the
variable, or in a loop. -/
def canBeUsedLater (forest : Forest) (ref : Reference) : Except Fault Bool :=
  if forest.variableScope ref.scope = forest.variableScope ref.resolved.scope then
    ref.identifier.isInLoop
  else .ok true

/-- The right-hand side that a reference opens: it is the target of an assignment that stands as a statement, and not
one that `canBeUsedLater`. A null right-hand side opens nothing. -/
def opens (forest : Forest) (ref : Reference) : Except Fault (Option Operand) :=
  match ref.identifier.parent? with
  | none => .ok none
  | some parent =>
    match parent.parent? with
    | none => .ok none
    | some grandparent =>
      if parent.node.isKind "AssignmentExpression" && grandparent.node.isKind "ExpressionStatement"
      then do
        let left ← parent.field "left"
        if !left.isPlace ref.identifier then return none
        else if ← ref.canBeUsedLater forest then return none
        else match ← parent.field "right" with
          | .data .null => return none
          | right => return some right
      else .ok none

/-- The right-hand side that is pending after a reference: the one before, when the reference lies inside it, or the
one that the reference `opens`. -/
def nextPending (forest : Forest) (ref : Reference) (pending : Option Operand) :
    Except Fault (Option Operand) :=
  match pending with
  | none => ref.opens forest
  | some right => do
    if ← right.contains ref.identifier then return some right else ref.opens forest

/-- An update such as `a += 1` or `a++` whose value is thrown away. -/
def isSelfUpdate (ref : Reference) : Except Fault Bool :=
  match ref.identifier.parent? with
  | none => .ok false
  | some parent =>
    if parent.node.isKind "AssignmentExpression" then do
      let left ← parent.field "left"
      if left.isPlace ref.identifier then parent.isUnusedExpression else return false
    else if parent.node.isKind "UpdateExpression" then parent.isUnusedExpression
    else .ok false

/-- Whether a read serves nothing but the variable's own new value: by `isSelfUpdate`, or in the pending right-hand
side where it is not `isInsideStorable`. -/
def isReadForItself (ref : Reference) (pending : Option Operand) : Except Fault Bool :=
  if !ref.read then .ok false
  else do
    if ← ref.isSelfUpdate then return true
    else match pending with
      | none => return false
      | some right => do
        if ← right.contains ref.identifier then
          return !(← ref.identifier.isInsideStorable right)
        else return false

end Reference

end CatchAudit
