/-
The text of a syntax node with its fields.
-/
import CatchAudit.Document.Display
import CatchAudit.Syntax.Node

namespace CatchAudit

def Position.display (p : Position) : String :=
  "Position(line=" ++ p.line.quoted ++ ", column=" ++ p.column.quoted ++ ")"

def Location.display (l : Location) : String :=
  "SourceLocation(start=" ++ l.start.display ++ ", end=" ++ l.stop.display ++ ")"

namespace Node

mutual
def display : Node → String
  | .mk kind span location fields =>
    "Node(type=" ++ kind.quoted ++ ", range=(" ++ toString span.start ++ ", " ++
      toString span.stop ++ "), fields=\x7b" ++ ", ".intercalate (displayFields fields) ++
      "\x7d, loc=" ++ (match location with
      | some l => l.display
      | none => "None") ++ ")"

def displayFields : List (String × Field) → List String
  | [] => []
  | (name, f) :: rest => (Text.quoted name ++ ": " ++ displayField f) :: displayFields rest

def displayField : Field → String
  | .node n => display n
  | .list items => "[" ++ ", ".intercalate (displayItems items) ++ "]"
  | .data d => d.quoted

def displayItems : List Field → List String
  | [] => []
  | f :: rest => displayField f :: displayItems rest
end

end Node

end CatchAudit
