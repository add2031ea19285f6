/-
Places: a node seen from the root of its tree. A place holds the node and the frames above it, the
nearest first, so that parents and ancestors are read off a list, and two places of one tree are
the same exactly when their addresses agree.
-/
import CatchAudit.Syntax.Node
import CatchAudit.Fault

namespace CatchAudit

/-- A parent and the step from it to the child. -/
structure Frame where
  parent : Node
  step : Step

structure Place where
  node : Node
  frames : List Frame

instance : Inhabited Place := ⟨⟨default, []⟩⟩

/-- What a field of a place holds: another place, a list, or data. -/
inductive Operand where
  | place (p : Place)
  | list (items : List Field)
  | data (value : Document)

instance : Inhabited Operand := ⟨.data .null⟩

namespace Place

/-- The root of a tree. -/
def root (n : Node) : Place := ⟨n, []⟩

/-- The steps from the place up to the root. -/
def address (p : Place) : List Step := p.frames.map (·.step)

/-- Whether two places of one tree are the same, by their `address`. -/
def same (p q : Place) : Bool := p.address == q.address

def parent? (p : Place) : Option Place :=
  match p.frames with
  | [] => none
  | f :: rest => some ⟨f.parent, rest⟩

def child (p : Place) (step : Step) (n : Node) : Place := ⟨n, ⟨p.node, step⟩ :: p.frames⟩

def children (p : Place) : List Place := p.node.children.map fun c => p.child c.1 c.2

/-- The places from a node with these frames up to the root. -/
def chainFrom (n : Node) : List Frame → List Place
  | [] => [⟨n, []⟩]
  | f :: rest => ⟨n, f :: rest⟩ :: chainFrom f.parent rest

/-- The place and its ancestors, nearest first, by `chainFrom`. -/
def chain (p : Place) : List Place := chainFrom p.node p.frames

def contains (outer inner : Place) : Bool := outer.node.span.contains inner.node.span

/-! ## Walking -/

/-- The places on the stack and below, each visited before its children; at most `fuel` visits. -/
def walkStack : (fuel : Nat) → List Place → List Place
  | _, [] => []
  | 0, _ => []
  | fuel + 1, p :: rest => p :: walkStack fuel (p.children ++ rest)

/-- The place and all places below it in pre-order, by `walkStack` with enough fuel. -/
def walk (p : Place) : List Place := walkStack p.node.size [p]

/-! ## Fields -/

/-- A field of a place as an operand. -/
def operand (p : Place) (name : String) : Field → Operand
  | .node n => .place (p.child ⟨name, none⟩ n)
  | .list items => .list items
  | .data d => .data d

def operand? (p : Place) (name : String) : Option Operand :=
  (p.node.field? name).map (p.operand name)

/-- Names that never name a field. -/
def isReserved (name : String) : Bool := "__".toList.isPrefixOf name.toList || name == "fields"

/-- A field that must be there. -/
def field (p : Place) (name : String) : Except Fault Operand :=
  if isReserved name then .error (.reservedName name)
  else match p.operand? name with
    | some x => .ok x
    | none => .error (.noField p.node.kind name)

end Place

namespace Operand

def shape : Operand → Shape
  | .place _ => .node
  | .list _ => .list
  | .data d => d.shape

/-- The kind of the node that an operand is. -/
def kind : Operand → Except Fault Document
  | .place p => .ok p.node.kind
  | x => .error (.noOperation x.shape "type")

/-- Whether the operand is this place, by `same`. -/
def isPlace (p : Place) : Operand → Bool
  | .place q => q.same p
  | _ => false

def truthy : Operand → Bool
  | .place _ => true
  | .list items => !items.isEmpty
  | .data d => d.truthy

/-- Whether the span of an operand, which must be a node, contains that of a place, by `Place.contains`. -/
def contains (inner : Place) : Operand → Except Fault Bool
  | .place outer => .ok (outer.contains inner)
  | x => .error (.noOperation x.shape "contains")

/-- A text of one character. -/
def letter (c : Char) : Operand := .data (.text (String.singleton c))

end Operand

namespace Place

/-- The last item of the field `name`. -/
def lastItem (p : Place) (name : String) : Except Fault Operand := do
  match ← p.field name with
  | .place _ => .error (.notSubscriptable .node)
  | .list items => match items.getLast? with
    | none => .error .listIndexOutOfRange
    | some (.node n) => return .place (p.child ⟨name, some (items.length - 1)⟩ n)
    | some (.list items) => return .list items
    | some (.data d) => return .data d
  | .data (.text s) => match s.toList.getLast? with
    | none => .error .textIndexOutOfRange
    | some c => return .letter c
  | .data (.object _) => .error (.absentIndex (-1))
  | .data d => .error (.notSubscriptable d.shape)

/-- The first item of the field `name`. -/
def firstItem (p : Place) (name : String) : Except Fault Operand := do
  match ← p.field name with
  | .place _ => .error (.notSubscriptable .node)
  | .list items => match items with
    | [] => .error .listIndexOutOfRange
    | .node n :: _ => return .place (p.child ⟨name, some 0⟩ n)
    | .list items :: _ => return .list items
    | .data d :: _ => return .data d
  | .data (.text s) => match s.toList with
    | [] => .error .textIndexOutOfRange
    | c :: _ => return .letter c
  | .data (.object _) => .error (.absentIndex 0)
  | .data d => .error (.notSubscriptable d.shape)

end Place

end CatchAudit
