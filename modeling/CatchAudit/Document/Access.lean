/-
Reading documents: members, items, pairs, whole numbers, keys, sums and order. Every reader says
which fault arises when the document has another shape than the one it needs.
-/
import CatchAudit.Fault

namespace CatchAudit.Document

/-! ## Members and items -/

/-- A member of an object, null when it is missing. -/
def get (name : String) : Document → Except Fault Document
  | .object members => .ok ((memberOf? name members).getD .null)
  | d => .error (.noOperation d.shape "get")

/-- A member of an object, or `fallback` when it is missing. -/
def getD (d : Document) (name : String) (fallback : Document) : Except Fault Document :=
  match d with
  | .object members => .ok ((memberOf? name members).getD fallback)
  | d => .error (.noOperation d.shape "get")

/-- A member that must be there. -/
def require (name : String) : Document → Except Fault Document
  | .object members => match memberOf? name members with
    | some d => .ok d
    | none => .error (.absentMember name)
  | .text _ => .error .textByName
  | .list _ => .error .listByName
  | d => .error (.notSubscriptable d.shape)

/-- What a document holds, in order: the items of a list, the characters of a text, the names of an
object. -/
def contents? : Document → Option (List Document)
  | .list items => some items
  | .text s => some (s.toList.map fun c => .text (String.singleton c))
  | .object members => some (members.map fun m => .text m.1)
  | _ => none

/-- The contents of a document that is gone through item by item. -/
def iterate (d : Document) : Except Fault (List Document) :=
  match d.contents? with
  | some items => .ok items
  | none => .error (.notIterable d.shape)

/-- The contents of a document that holds two. -/
def pair (d : Document) : Except Fault (Document × Document) :=
  match d.contents? with
  | some [a, b] => .ok (a, b)
  | some (_ :: _ :: _ :: _) => .error .tooManyValues
  | some items => .error (.tooFewValues items.length)
  | none => .error (.notUnpackable d.shape)

/-- The first item. -/
def first : Document → Except Fault Document
  | .list [] => .error .listIndexOutOfRange
  | .list (d :: _) => .ok d
  | .text s => match s.toList with
    | [] => .error .textIndexOutOfRange
    | c :: _ => .ok (.text (String.singleton c))
  | .object _ => .error (.absentIndex 0)
  | d => .error (.notSubscriptable d.shape)

/-! ## Whole numbers -/

/-- The whole number that a document stands for: a float is cut towards zero. -/
def toInteger : Document → Except Fault Int
  | .int i => .ok i
  | .bool b => .ok (if b then 1 else 0)
  | .float x => match x, x.truncate? with
    | _, some i => .ok i
    | .nan, none => .error .nanToInteger
    | _, none => .error .infinityToInteger
  | .text s => match Text.integer s.toList with
    | .ok i => .ok i
    | .error .malformed => .error (.badInteger s)
    | .error (.tooLong digits) => .error (.longInteger digits)
  | d => .error (.notNumeric d.shape)

/-- The document plus one. -/
def successor : Document → Except Fault Document
  | .int i => .ok (.int (i + 1))
  | .bool b => .ok (.int (if b then 2 else 1))
  | .float x => .ok (.float (x.addInt 1))
  | d => .error (.notAddable d.shape)

/-! ## Texts -/

/-- The text of a document on its own. A whole number that is too long has none. -/
def toText (d : Document) : Except Fault String :=
  if d.isWritable then .ok d.display else .error .longNumber

/-! ## Keys -/

/-- A document that can be part of a key: lists and objects cannot. -/
def asKey : Document → Except Fault Document
  | .list _ => .error (.unhashable .list)
  | .object _ => .error (.unhashable .object)
  | d => .ok d

/-- Sets the value under a key: in place when an equal key is there, at the end otherwise. -/
def setEntry (key value : Document) : List (Document × Document) → List (Document × Document)
  | [] => [(key, value)]
  | (other, old) :: rest =>
    if other.equal key then (other, value) :: rest else (other, old) :: setEntry key value rest

/-- Adds the keys with values that the items of a list give, `index` being the index of the first; of
equal keys the last value counts. -/
def entriesFrom (entries : List (Document × Document)) :
    (index : Nat) → List Document → Except Fault (List (Document × Document))
  | _, [] => .ok entries
  | index, d :: rest =>
    match d.contents? with
    | none => .error (.entryShape index)
    | some [key, value] => do
      let key ← key.asKey
      entriesFrom (setEntry key value entries) (index + 1) rest
    | some items => .error (.entryLength index items.length)

/-- The keys and values of an object, or those that a list of pairs gives. -/
def entries (d : Document) : Except Fault (List (Document × Document)) :=
  match d with
  | .object members => .ok (members.map fun (name, value) => (.text name, value))
  | d => do entriesFrom [] 0 (← d.iterate)

/-- The texts that documents are; `index` is the index of the first. -/
def textsFrom : (index : Nat) → List Document → Except Fault (List String)
  | _, [] => .ok []
  | index, .text s :: rest => do return s :: (← textsFrom (index + 1) rest)
  | index, d :: _ => .error (.itemNotText index d.shape)

/-! ## Order -/

/-- Whether the left moment comes before the right one: both must be of one kind, and have offsets or
not. -/
def lessMoment : Moment → Moment → Except Fault Bool
  | .date d, .date e => .ok (d.dayNumber < e.dayNumber)
  | .time t, .time u => .ok (t.microseconds < u.microseconds)
  | .dateTime d t (some offset), .dateTime e u (some other) =>
    .ok (Moment.instant d t offset < Moment.instant e u other)
  | .dateTime d t none, .dateTime e u none => .ok (Moment.instant d t 0 < Moment.instant e u 0)
  | .dateTime .., .dateTime .. => .error .mixedOffsets
  | .date _, .dateTime .. | .dateTime .., .date _ => .error .mixedMoments
  | a, b => .error (.notOrdered (shape (.moment a)) (shape (.moment b)))

mutual
/-- Whether the left document comes before the right one. Numbers, texts, moments and lists are ordered
among themselves, lists by their first difference. -/
def less : Document → Document → Except Fault Bool
  | .text s, .text t => .ok (decide (s < t))
  | .moment a, .moment b => lessMoment a b
  | .list xs, .list ys => lessItems xs ys
  | x, y => match x.number?, y.number? with
    | some a, some b => .ok (a.compare? b == some .lt)
    | _, _ => .error (.notOrdered x.shape y.shape)

def lessItems : List Document → List Document → Except Fault Bool
  | [], [] => .ok false
  | [], _ :: _ => .ok true
  | _ :: _, [] => .ok false
  | x :: xs, y :: ys => if equal x y then lessItems xs ys else less x y
end

end CatchAudit.Document
