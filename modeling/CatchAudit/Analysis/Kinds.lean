/-
Which nodes are functions, loops and statements, the nearest function and loop around a place, and
expressions whose value is thrown away.
-/
import CatchAudit.Document.Access
import CatchAudit.Syntax.Place

namespace CatchAudit

namespace Node

def functionKinds : List String :=
  ["FunctionDeclaration", "FunctionExpression", "ArrowFunctionExpression"]

def loopKinds : List String :=
  ["DoWhileStatement", "ForStatement", "ForInStatement", "ForOfStatement", "WhileStatement"]

/-- Whether the kind, which must be fit for a key, is one of the names. -/
def hasKindIn (names : List String) (n : Node) : Except Fault Bool := do
  let kind ← n.kind.asKey
  return names.any kind.isText

/-- Function declarations and expressions, arrows included, by `hasKindIn`. -/
def isFunction (n : Node) : Except Fault Bool := n.hasKindIn functionKinds

def isLoop (n : Node) : Except Fault Bool := n.hasKindIn loopKinds

def endsWith (ending : String) (cs : List Char) : Bool := ending.toList.reverse.isPrefixOf cs.reverse

/-- The names of statements and declarations; a line feed may follow. -/
def isStatementName (name : String) : Bool :=
  let cs := name.toList
  let cs := if cs.getLast? = some '\n' then [cs, cs.dropLast] else [cs]
  cs.any fun cs => endsWith "Statement" cs || endsWith "Declaration" cs

/-- Statements and declarations, told by `isStatementName` from the end of their kind, which must be a text. -/
def isStatement (n : Node) : Except Fault Bool :=
  match n.kind with
  | .text name => .ok (isStatementName name)
  | kind => .error (.notText kind.shape)

end Node

namespace Place

/-- Whether a loop comes before a function in a list of places, a function hiding itself too. -/
def loopFirst : List Place → Except Fault Bool
  | [] => .ok false
  | p :: rest => do
    if ← p.node.isFunction then return false
    else if ← p.node.isLoop then return true
    else loopFirst rest

/-- Whether the place stands in a loop of its own function, by `loopFirst` on its chain. -/
def isInLoop (p : Place) : Except Fault Bool := loopFirst p.chain

/-- The first function in a list of places. -/
def firstFunction? : List Place → Except Fault (Option Place)
  | [] => .ok none
  | p :: rest => do
    if ← p.node.isFunction then return some p else firstFunction? rest

/-- The nearest function around the place, or the place itself, by `firstFunction?`. -/
def upperFunction? (p : Place) : Except Fault (Option Place) := firstFunction? p.chain

/-- Whether the value of an expression with these frames is thrown away. -/
def unusedFrom (n : Node) : List Frame → Except Fault Bool
  | [] => .ok false
  | f :: rest =>
    let parent : Place := ⟨f.parent, rest⟩
    if f.parent.isKind "ExpressionStatement" then .ok true
    else if f.parent.isKind "SequenceExpression" then do
      let last ← parent.lastItem "expressions"
      if last.isPlace ⟨n, f :: rest⟩ then unusedFrom f.parent rest else return true
    else .ok false

/-- Whether by `unusedFrom` the value of an expression is thrown away: it is a statement of its own, or an element of
a sequence that is not the last, or the last one of a sequence thrown away. -/
def isUnusedExpression (p : Place) : Except Fault Bool := unusedFrom p.node p.frames

end Place

end CatchAudit
