/-
The text of a document in messages: `display` shows a text as it is, `quoted` puts it in quotes.
-/
import CatchAudit.Document.Basic
import CatchAudit.Number.Shortest
import CatchAudit.Text.Integer
import CatchAudit.Text.Quoted

namespace CatchAudit.Document

mutual
/-- A document as it stands inside another one. -/
def quoted : Document → String
  | .null => "None"
  | .bool b => if b then "True" else "False"
  | .int i => toString i
  | .float x => x.text
  | .text s => Text.quoted s
  | .moment m => m.quoted
  | .list items => "[" ++ ", ".intercalate (quotedItems items) ++ "]"
  | .object members => "\x7b" ++ ", ".intercalate (quotedMembers members) ++ "\x7d"

def quotedItems : List Document → List String
  | [] => []
  | d :: rest => quoted d :: quotedItems rest

def quotedMembers : List (String × Document) → List String
  | [] => []
  | (name, d) :: rest => (Text.quoted name ++ ": " ++ quoted d) :: quotedMembers rest
end

mutual
/-- Whether every whole number in a document is short enough to be written. -/
def isWritable : Document → Bool
  | .int i => !Text.isLongNumber i
  | .list items => areWritable items
  | .object members => membersWritable members
  | _ => true

def areWritable : List Document → Bool
  | [] => true
  | d :: rest => isWritable d && areWritable rest

def membersWritable : List (String × Document) → Bool
  | [] => true
  | (_, d) :: rest => isWritable d && membersWritable rest
end

/-- A document on its own. -/
def display : Document → String
  | .text s => s
  | .moment m => m.text
  | d => quoted d

end CatchAudit.Document
