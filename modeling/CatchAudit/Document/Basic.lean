/-
Documents: the values that a JSON or TOML text denotes. An object keeps the order of its members,
and no two members share a name. Truth, equality and order of documents are defined here; numbers
compare by value, whatever their kind, and the truth values count as 0 and 1.
-/
import CatchAudit.Document.Moment
import CatchAudit.Number.Binary64

namespace CatchAudit

inductive Document where
  | null
  | bool (value : Bool)
  | int (value : Int)
  | float (value : Binary64)
  | text (value : String)
  | moment (value : Moment)
  | list (items : List Document)
  | object (members : List (String × Document))
  deriving Repr, Inhabited

/-- The sort of value found where another one was needed. Syntax nodes have one of their own. -/
inductive Shape where
  | null | bool | int | float | text | date | time | dateTime | list | object | node
  deriving DecidableEq, Repr

/-- The short word for a shape in messages. -/
def Shape.shortName : Shape → String
  | .null => "NoneType"
  | .bool => "bool"
  | .int => "int"
  | .float => "float"
  | .text => "str"
  | .date => "date"
  | .time => "time"
  | .dateTime => "datetime"
  | .list => "list"
  | .object => "dict"
  | .node => "Node"

/-- The word for a shape in most messages: those of dates and times say where they belong. -/
def Shape.name (s : Shape) : String :=
  match s with
  | .date | .time | .dateTime => "datetime." ++ s.shortName
  | _ => s.shortName

/-- The value under a name in an association list. -/
def memberOf? {α : Type} (name : String) : List (String × α) → Option α
  | [] => none
  | (key, value) :: rest => if key = name then some value else memberOf? name rest

theorem mem_of_memberOf? {α : Type} {name : String} {value : α} :
    ∀ {members : List (String × α)}, memberOf? name members = some value → (name, value) ∈ members
  | [], h => by cases h
  | (key, old) :: rest, h => by
    unfold memberOf? at h
    split at h
    · rename_i hkey
      cases h
      rw [hkey]
      exact List.mem_cons_self ..
    · exact List.mem_cons_of_mem _ (mem_of_memberOf? h)

/-- Sets the value under a name: in place when the name is there, at the end otherwise. -/
def setMember {α : Type} (name : String) (value : α) : List (String × α) → List (String × α)
  | [] => [(name, value)]
  | (key, old) :: rest =>
    if key = name then (key, value) :: rest else (key, old) :: setMember name value rest

namespace Document

def shape : Document → Shape
  | .null => .null
  | .bool _ => .bool
  | .int _ => .int
  | .float _ => .float
  | .text _ => .text
  | .moment (.date _) => .date
  | .moment (.time _) => .time
  | .moment (.dateTime ..) => .dateTime
  | .list _ => .list
  | .object _ => .object

/-- The member of an object; none for any other document. -/
def member? (name : String) : Document → Option Document
  | .object members => memberOf? name members
  | _ => none

/-- Null, false, zero and whatever is empty are not truthy. -/
def truthy : Document → Bool
  | .null => false
  | .bool b => b
  | .int i => i != 0
  | .float x => !x.isZero
  | .text s => !s.isEmpty
  | .moment _ => true
  | .list items => !items.isEmpty
  | .object members => !members.isEmpty

/-- The number that a document is, if it is one. -/
def number? : Document → Option Binary64
  | .bool b => some (Binary64.exact (if b then 1 else 0))
  | .int i => some (Binary64.exact i)
  | .float x => some x
  | _ => none

/-- Equality of numbers by value; what is not a number equals itself. -/
def sameNumber (x y : Binary64) : Bool :=
  match x, y with
  | .nan, .nan => true
  | x, y => x.compare? y == some .eq

mutual
/-- Equality of documents: numbers by value, lists item by item, objects by what each name holds. -/
def equal : Document → Document → Bool
  | .null, .null => true
  | .text s, .text t => s == t
  | .moment a, .moment b => a.same b
  | .list xs, .list ys => equalItems xs ys
  | .object xs, .object ys => xs.length == ys.length && equalMembers xs ys
  | .bool a, y => match y.number? with
    | some n => sameNumber (Binary64.exact (if a then 1 else 0)) n
    | none => false
  | .int a, y => match y.number? with
    | some n => sameNumber (Binary64.exact a) n
    | none => false
  | .float a, y => match y.number? with
    | some n => sameNumber a n
    | none => false
  | _, _ => false

def equalItems : List Document → List Document → Bool
  | [], [] => true
  | x :: xs, y :: ys => equal x y && equalItems xs ys
  | _, _ => false

/-- Every member on the left stands on the right with an equal value. -/
def equalMembers : List (String × Document) → List (String × Document) → Bool
  | [], _ => true
  | (name, x) :: xs, ys =>
    (match memberOf? name ys with
    | some y => equal x y
    | none => false) && equalMembers xs ys
end

/-- Equality with a given text. -/
def isText (s : String) : Document → Bool
  | .text t => t == s
  | _ => false

mutual
/-- The number of documents in a document. -/
def size : Document → Nat
  | .list items => 1 + sizeItems items
  | .object members => 1 + sizeMembers members
  | _ => 1

def sizeItems : List Document → Nat
  | [] => 0
  | d :: rest => d.size + sizeItems rest

def sizeMembers : List (String × Document) → Nat
  | [] => 0
  | (_, d) :: rest => d.size + sizeMembers rest
end

end Document

end CatchAudit
