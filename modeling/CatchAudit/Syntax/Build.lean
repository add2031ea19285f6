/-
From a document to a syntax tree. An object with a `type` is a node; its span comes from `range`, or
from `start` and `end`; its location from `loc`. All other members are fields.
-/
import CatchAudit.Document.Access
import CatchAudit.Syntax.Node

namespace CatchAudit

/-- Why a document is no syntax tree: it is rejected, or it has not the shape that is read. -/
inductive BuildError where
  | missingKind
  | missingSpan (kind : Document)
  | fault (f : Fault)
  deriving Repr

namespace Node

/-- The members of a node that are no fields. -/
def headerNames : List String := ["type", "range", "loc", "start", "end"]

def toBuild {α : Type} : Except Fault α → Except BuildError α
  | .ok a => .ok a
  | .error f => .error (.fault f)

def readSpan (kind : Document) (members : List (String × Document)) : Except BuildError Span :=
  match memberOf? "range" members with
  | some range => toBuild do
    let (a, b) ← range.pair
    let start ← a.toInteger
    let stop ← b.toInteger
    return ⟨start, stop⟩
  | none =>
    match memberOf? "start" members, memberOf? "end" members with
    | some a, some b => toBuild do
      let start ← a.toInteger
      let stop ← b.toInteger
      return ⟨start, stop⟩
    | _, _ => .error (.missingSpan kind)

def readPosition (d : Document) (name : String) : Except Fault Position := do
  let line ← (← d.require name).require "line"
  let column ← (← d.require name).require "column"
  return ⟨line, column⟩

/-- A location that is not truthy counts as missing. -/
def readLocation (d : Document) : Except Fault (Option Location) :=
  if d.truthy then do
    let start ← readPosition d "start"
    let stop ← readPosition d "end"
    return some ⟨start, stop⟩
  else .ok none

/-- Kind, span and location, in this order. -/
def readHeader (members : List (String × Document)) :
    Except BuildError (Document × Span × Option Location) :=
  match memberOf? "type" members with
  | none => .error .missingKind
  | some kind => do
    let span ← readSpan kind members
    let location ← toBuild (readLocation ((memberOf? "loc" members).getD .null))
    return (kind, span, location)

mutual
def buildFields : List (String × Document) → Except BuildError (List (String × Field))
  | [] => .ok []
  | (name, d) :: rest =>
    if headerNames.contains name then buildFields rest
    else do
      let f ← buildField d
      let fs ← buildFields rest
      return (name, f) :: fs

/-- An object without a kind stays data. -/
def buildField : Document → Except BuildError Field
  | .object members =>
    if (memberOf? "type" members).isSome then do
      let (kind, span, location) ← readHeader members
      let fields ← buildFields members
      return .node (.mk kind span location fields)
    else .ok (.data (.object members))
  | .list items => do
    let fs ← buildItems items
    return .list fs
  | d => .ok (.data d)

def buildItems : List Document → Except BuildError (List Field)
  | [] => .ok []
  | d :: rest => do
    let f ← buildField d
    let fs ← buildItems rest
    return f :: fs
end

/-- The syntax tree that a document describes. -/
def ofDocument : Document → Except BuildError Node
  | .object members => do
    let (kind, span, location) ← readHeader members
    let fields ← buildFields members
    return .mk kind span location fields
  | _ => .error .missingKind

end Node

end CatchAudit
