/-
Function values that outlive the right-hand side in which they stand. A read inside
`err = wrap(function () { log(err); })` is a use, because the function is handed on and may run
later. Each step outwards from the function has a shape, and the first decisive shape settles it.
-/
import CatchAudit.Analysis.Kinds

namespace CatchAudit

/-- How a parent takes up the value of its child. -/
inductive ClosureShape where
  /-- Thrown away: an element of a sequence that is not the last. -/
  | sequenceInner
  /-- The value of a whole sequence. -/
  | sequenceLast
  /-- Called on the spot. -/
  | callee
  /-- Passed to a call. -/
  | callArgument
  | assigned
  | taggedTemplate
  | yielded
  | statement
  /-- The value goes on outwards. -/
  | transparent
  deriving DecidableEq, Repr

def ClosureShape.name : ClosureShape → String
  | .sequenceInner => "SEQUENCE_INNER"
  | .sequenceLast => "SEQUENCE_LAST"
  | .callee => "CALLEE"
  | .callArgument => "CALL_ARGUMENT"
  | .assigned => "ASSIGNED"
  | .taggedTemplate => "TAGGED_TEMPLATE"
  | .yielded => "YIELDED"
  | .statement => "STATEMENT"
  | .transparent => "TRANSPARENT"

/-- What a `ClosureShape` says about the function: kept, not kept, or nothing yet. -/
def ClosureShape.verdict? : ClosureShape → Option Bool
  | .sequenceInner | .callee => some false
  | .callArgument | .assigned | .taggedTemplate | .yielded | .statement => some true
  | .sequenceLast | .transparent => none

namespace Place

/-- The shape of the step from a place to its parent. -/
def closureShape (p parent : Place) : Except Fault ClosureShape :=
  let is := parent.node.isKind
  if is "SequenceExpression" then do
    let last ← parent.lastItem "expressions"
    return if last.isPlace p then .sequenceLast else .sequenceInner
  else if is "CallExpression" || is "NewExpression" then do
    let callee ← parent.field "callee"
    return if callee.isPlace p then .callee else .callArgument
  else if is "AssignmentExpression" then .ok .assigned
  else if is "TaggedTemplateExpression" then .ok .taggedTemplate
  else if is "YieldExpression" then .ok .yielded
  else do
    return if ← parent.node.isStatement then .statement else .transparent

/-- Whether by the `verdict?` of each step a value with these frames is kept for later, looking no further than the
right-hand side. -/
def storableFrom (right : Operand) (n : Node) : List Frame → Except Fault Bool
  | [] => .ok false
  | f :: rest => do
    let parent : Place := ⟨f.parent, rest⟩
    if ← right.contains parent then
      match (← closureShape ⟨n, f :: rest⟩ parent).verdict? with
      | some kept => return kept
      | none => storableFrom right f.parent rest
    else return false

/-- Whether a function inside a right-hand side may be kept for later, by `storableFrom`. -/
def isStorable (function : Place) (right : Operand) : Except Fault Bool :=
  storableFrom right function.node function.frames

/-- Whether the nearest function around an identifier lies inside the right-hand side and `isStorable`. -/
def isInsideStorable (identifier : Place) (right : Operand) : Except Fault Bool := do
  match ← identifier.upperFunction? with
  | none => return false
  | some function => do
    if ← right.contains function then function.isStorable right else return false

end Place

end CatchAudit
