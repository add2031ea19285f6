/-
Writing JSON: on one line, or with every item and member on a line of its own. Characters outside
the printable ones of ASCII are escaped.
-/
import CatchAudit.Fault

namespace CatchAudit.Json

open CatchAudit.Text (hex)

/-- One character of a text. Beyond the first 65536 code points it takes a surrogate pair. -/
def escaped (c : Char) : List Char :=
  let n := c.toNat
  if c = '"' ∨ c = '\\' then ['\\', c]
  else if c = '\n' then ['\\', 'n']
  else if c = '\r' then ['\\', 'r']
  else if c = '\t' then ['\\', 't']
  else if n = 12 then ['\\', 'f']
  else if n = 8 then ['\\', 'b']
  else if 0x20 ≤ n ∧ n < 0x7f then [c]
  else if n < 0x10000 then '\\' :: 'u' :: hex 4 n
  else
    let m := n - 0x10000
    '\\' :: 'u' :: hex 4 (0xd800 + m / 0x400) ++ '\\' :: 'u' :: hex 4 (0xdc00 + m % 0x400)

def writeText (s : String) : String :=
  String.ofList ('"' :: s.toList.flatMap escaped ++ ['"'])

def writeFloat : Binary64 → String
  | .nan => "NaN"
  | .infinite negative => if negative then "-Infinity" else "Infinity"
  | x => x.text

/-- The pieces that surround and separate the items of a list or object at a given depth. -/
structure Layout where
  /-- What stands before the first item. -/
  opening : Nat → String
  /-- What stands between two items. -/
  between : Nat → String
  /-- What stands after the last item. -/
  closing : Nat → String

/-- Everything on one line. -/
def Layout.flat : Layout := ⟨fun _ => "", fun _ => ", ", fun _ => ""⟩

/-- Every item on its own line, two blanks deeper than what holds it. -/
def Layout.indented : Layout :=
  let line := fun (depth : Nat) => "\n" ++ String.ofList (List.replicate (2 * depth) ' ')
  ⟨fun depth => line (depth + 1), fun depth => "," ++ line (depth + 1), line⟩

/-- Items between their brackets. -/
def Layout.enclose (layout : Layout) (depth : Nat) (left right : String) (items : List String) :
    String :=
  if items.isEmpty then left ++ right
  else
    left ++ layout.opening depth ++ (layout.between depth).intercalate items ++
      layout.closing depth ++ right

mutual
def write (layout : Layout) (depth : Nat) : Document → String
  | .null => "null"
  | .bool b => if b then "true" else "false"
  | .int i => toString i
  | .float x => writeFloat x
  | .text s => writeText s
  | .moment m => writeText m.text
  | .list items => layout.enclose depth "[" "]" (writeItems layout (depth + 1) items)
  | .object members =>
    layout.enclose depth "\x7b" "\x7d" (writeMembers layout (depth + 1) members)

def writeItems (layout : Layout) (depth : Nat) : List Document → List String
  | [] => []
  | d :: rest => write layout depth d :: writeItems layout depth rest

def writeMembers (layout : Layout) (depth : Nat) : List (String × Document) → List String
  | [] => []
  | (name, d) :: rest =>
    (writeText name ++ ": " ++ write layout depth d) :: writeMembers layout depth rest
end

/-- A document on one line, in the `Layout.flat`. -/
def compact (d : Document) : String := write Layout.flat 0 d

/-- A document over several lines, in the layout `Layout.indented`. -/
def indented (d : Document) : String := write Layout.indented 0 d

/-- A document over several lines, by `indented`, unless it holds a whole number that is too long. -/
def toText (d : Document) : Except Fault String :=
  if d.isWritable then .ok (indented d) else .error .longNumber

end CatchAudit.Json
