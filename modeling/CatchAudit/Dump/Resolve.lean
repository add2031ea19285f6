/-
Resolving the node references of a dump. A reference gives a kind and a span; of several nodes with
that kind and span the first in pre-order is meant, except that the key of a shorthand property
gives way to a later node.
-/
import CatchAudit.Document.Access
import CatchAudit.Syntax.Place

namespace CatchAudit

/-- A kind and a span. -/
structure NodeKey where
  kind : Document
  span : Span

namespace NodeKey

/-- Keys agree when their spans do and their kinds are equal. -/
def agrees (a b : NodeKey) : Bool := a.span == b.span && a.kind.equal b.kind

end NodeKey

namespace Place

def key (p : Place) : NodeKey := ⟨p.node.kind, p.node.span⟩

/-- The key of a property that is written once for its name and its value. -/
def isShorthandKey (p : Place) : Bool :=
  match p.parent? with
  | none => false
  | some parent =>
    parent.node.isKind "Property" &&
      ((parent.operand? "shorthand").map Operand.truthy).getD false &&
      ((parent.operand? "key").map (Operand.isPlace p)).getD false

end Place

namespace Dump

/-- What a key is known to mean once another place has been seen. -/
def keep (key : NodeKey) (known : Option Place) (p : Place) : Option Place :=
  if p.key.agrees key then
    match known with
    | none => some p
    | some q => if q.isShorthandKey then some p else some q
  else known

/-- The place that a key means among places in pre-order. -/
def lookup (places : List Place) (key : NodeKey) : Option Place := places.foldl (keep key) none

/-- Every kind must be fit for a key. -/
def checkKinds : List Place → Except Fault Unit
  | [] => .ok ()
  | p :: rest => do
    let _ ← p.node.kind.asKey
    checkKinds rest

/-- Resolves a reference: an object with a kind and a span. -/
def resolve (places : List Place) (d : Document) : Except Fault (Option Place) :=
  match d.member? "type", d.member? "range" with
  | some kind, some range => do
    let (a, b) ← range.pair
    let start ← a.toInteger
    let stop ← b.toInteger
    let kind ← kind.asKey
    return lookup places ⟨kind, ⟨start, stop⟩⟩
  | _, _ => .ok none

end Dump

end CatchAudit
