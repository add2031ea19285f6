/-
Scopes, variables and references. Scopes are numbered in the order of their creation and stand in
one list, the forest; each names the scope around it, which was created before it. Children, the
enclosing scopes and the walk over a subtree are read off the list. A scope stays in the list once it is
created: the way up from a scope is there as long as the root that holds the scope is kept, and nothing is
said of scopes whose roots have been let go.
-/
import CatchAudit.Scope.Kind
import CatchAudit.Syntax.Place

namespace CatchAudit

structure Definition where
  kind : DefinitionKind
  /-- The declaring identifier. -/
  name : Place
  /-- The declaration around it. -/
  node : Option Place

/-- A variable by its scope and its position there. -/
structure VariableId where
  scope : Nat
  index : Nat
  deriving DecidableEq, Repr

/-- A read or a write of a variable. -/
structure Reference where
  identifier : Place
  /-- The scope in which the reference stands. -/
  scope : Nat
  read : Bool
  write : Bool
  /-- The variable that is meant. -/
  resolved : VariableId

structure Variable where
  name : String
  scope : Nat
  definitions : List Definition
  identifiers : List Place
  references : List Reference

structure Scope where
  kind : ScopeKind
  block : Place
  upper : Option Nat
  bindings : List Variable

structure Forest where
  scopes : List Scope

namespace Forest

def empty : Forest := ⟨[]⟩

def size (f : Forest) : Nat := f.scopes.length

def scope? (f : Forest) (s : Nat) : Option Scope := f.scopes[s]?

/-- Every scope was created after the scope around it. -/
def Ordered (f : Forest) : Prop :=
  ∀ s scope, f.scope? s = some scope → ∀ u, scope.upper = some u → u < s

/-- Creates a scope; its number is the size of the forest before. -/
def create (f : Forest) (kind : ScopeKind) (block : Place) (upper : Option Nat) : Forest :=
  ⟨f.scopes ++ [⟨kind, block, upper, []⟩]⟩

/-- Adds a variable at the end of a scope. -/
def addVariable (f : Forest) (s : Nat) (v : Variable) : Forest :=
  ⟨f.scopes.modify s fun scope => { scope with bindings := scope.bindings ++ [v] }⟩

/-- A variable without definitions, identifiers and references. -/
def bareVariable (s : Nat) (name : String) : Variable := ⟨name, s, [], [], []⟩

def upper? (f : Forest) (s : Nat) : Option Nat := (f.scope? s).bind (·.upper)

def bindings (f : Forest) (s : Nat) : List Variable := ((f.scope? s).map (·.bindings)).getD []

def isFunctionLevel (f : Forest) (s : Nat) : Bool :=
  ((f.scope? s).map (·.kind.isFunctionLevel)).getD false

/-- The scopes created directly inside `s`, in order of creation. -/
def children (f : Forest) (s : Nat) : List Nat :=
  (List.range f.size).filter fun i => f.upper? i == some s

/-- A scope and those around it, at most `fuel` of the latter. -/
def chainFrom (f : Forest) : (fuel : Nat) → Nat → List Nat
  | 0, s => [s]
  | fuel + 1, s =>
    s :: match f.upper? s with
      | none => []
      | some u => chainFrom f fuel u

/-- A scope and those around it, innermost first. -/
def chain (f : Forest) (s : Nat) : List Nat := f.chainFrom f.size s

/-- The nearest function-level scope, the scope itself included; the scope itself if there is
none. -/
def variableScope (f : Forest) (s : Nat) : Nat :=
  ((f.chain s).find? f.isFunctionLevel).getD s

/-- The position of the first variable of this name in a scope. -/
def findVariable? (f : Forest) (s : Nat) (name : String) : Option Nat :=
  (f.bindings s).findIdx? fun v => v.name == name

/-- The scopes on the stack and below, each before its children; at most `fuel` visits. -/
def walkStack (f : Forest) : (fuel : Nat) → List Nat → List Nat
  | _, [] => []
  | 0, _ => []
  | fuel + 1, s :: rest => s :: walkStack f fuel (f.children s ++ rest)

/-- A scope and all scopes inside it in pre-order. -/
def walk (f : Forest) (s : Nat) : List Nat := f.walkStack f.size [s]

end Forest

/-- A short description of a scope. -/
def Scope.describe (s : Scope) : String :=
  "<Scope " ++ s.kind.name ++ " at (" ++ toString s.block.node.span.start ++ ", " ++
    toString s.block.node.span.stop ++ ")>"

/-- The binding of a catch scope: the first variable it declares. -/
def Scope.catchBinding? (s : Scope) : Option Variable :=
  if s.kind = .«catch» then s.bindings.head? else none

end CatchAudit
