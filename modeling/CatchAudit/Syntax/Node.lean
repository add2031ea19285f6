/-
Syntax trees. A node has a kind, a span of offsets, perhaps a location, and named fields in order.
A field holds a node, a list of fields, or plain data. The children of a node are the nodes that
stand in its fields directly or as items of a list; a list inside a list hides what it holds.
-/
import CatchAudit.Document.Basic

namespace CatchAudit

/-- Offsets of the first character and of the one after the last. -/
structure Span where
  start : Int
  stop : Int
  deriving DecidableEq, Repr, Inhabited

/-- `a.contains b`: the offsets of `b` nest inside those of `a`. -/
def Span.contains (outer inner : Span) : Bool :=
  outer.start ≤ inner.start && inner.stop ≤ outer.stop

/-- A line and a column, as the dump gives them. -/
structure Position where
  line : Document
  column : Document
  deriving Repr, Inhabited

structure Location where
  start : Position
  stop : Position
  deriving Repr, Inhabited

mutual
inductive Node where
  | mk (kind : Document) (span : Span) (location : Option Location) (fields : List (String × Field))

inductive Field where
  | node (child : Node)
  | list (items : List Field)
  | data (value : Document)
end

instance : Inhabited Node := ⟨.mk .null default none []⟩

instance : Inhabited Field := ⟨.data .null⟩

/-- Where a child stands in its parent: a field, and a position when the field is a list. -/
structure Step where
  field : String
  index : Option Nat
  deriving DecidableEq, Repr

namespace Field

def shape : Field → Shape
  | .node _ => .node
  | .list _ => .list
  | .data d => d.shape

/-- A node is truthy, a list when it is not empty. -/
def truthy : Field → Bool
  | .node _ => true
  | .list items => !items.isEmpty
  | .data d => d.truthy

/-- The node that a field holds directly. -/
def node? : Field → Option Node
  | .node n => some n
  | _ => none

/-- The nodes among the items of a list, each with its position, the first item being at `i`. -/
def itemNodes (name : String) : (i : Nat) → List Field → List (Step × Node)
  | _, [] => []
  | i, .node n :: rest => (⟨name, some i⟩, n) :: itemNodes name (i + 1) rest
  | i, _ :: rest => itemNodes name (i + 1) rest

/-- The children that the field `name` contributes. -/
def children (name : String) : Field → List (Step × Node)
  | .node n => [(⟨name, none⟩, n)]
  | .list items => itemNodes name 0 items
  | .data _ => []

end Field

namespace Node

def kind : Node → Document
  | .mk kind _ _ _ => kind

def span : Node → Span
  | .mk _ span _ _ => span

def location : Node → Option Location
  | .mk _ _ location _ => location

def fields : Node → List (String × Field)
  | .mk _ _ _ fields => fields

def field? (n : Node) (name : String) : Option Field := memberOf? name n.fields

def isKind (n : Node) (name : String) : Bool := n.kind.isText name

/-- The children in field order, each with its `Step`. -/
def children (n : Node) : List (Step × Node) := n.fields.flatMap fun f => f.2.children f.1

mutual
/-- The number of nodes in a tree, hidden ones included. -/
def size : Node → Nat
  | .mk _ _ _ fields => 1 + sizeFields fields

def sizeFields : List (String × Field) → Nat
  | [] => 0
  | (_, f) :: rest => sizeField f + sizeFields rest

def sizeField : Field → Nat
  | .node n => size n
  | .list items => sizeItems items
  | .data _ => 0

def sizeItems : List Field → Nat
  | [] => 0
  | f :: rest => sizeField f + sizeItems rest
end

end Node

end CatchAudit
