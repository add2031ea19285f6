/-
Messages with placeholders. The pattern `placeholder` finds them: a key between double braces, blanks around it
allowed. A key without a value leaves its placeholder as it stands. What is filled in is not read again.
-/
import CatchAudit.Document.Access
import CatchAudit.Pattern.Search

namespace CatchAudit.Message

/-- Double braces around a key, which is the group; blanks next to the braces are not part of it. -/
def placeholder : SearchPattern where
  source := "\\\x7b\\\x7b\\s*([^\x7b\x7d]+?)\\s*\\\x7d\\\x7d"
  flags := []
  pattern := [
    .point false 0x7b, .point false 0x7b,
    .repeated .greedy 0 none [.set false [.category false .space]],
    .group 1 [.repeated .lazy 1 none [.set true [.point 0x7b, .point 0x7d]]],
    .repeated .greedy 0 none [.set false [.category false .space]],
    .point false 0x7d, .point false 0x7d]
  least := 5

/-- What a match of `placeholder` that begins at a position gives way to: the value of its key, or itself if there is
none. -/
def replacement (data : List (String × Document)) (text : Array Char) (position : Nat) (s : Pattern.Progress) :
    Except Fault (List Char) :=
  let between := fun i j => (text.extract i j).toList
  match (s.span? 1).bind fun (i, j) => memberOf? (String.ofList (between i j)) data with
  | some value => value.toText.map String.toList
  | none => .ok (between position s.cursor)

/-- Fills in what is left of a text at a position. Its first `skip` characters belong to a match that has been
replaced. -/
def fillFrom (data : List (String × Document)) (text : Array Char) :
    (skip position : Nat) → List Char → Except Fault (List Char)
  | _, _, [] => .ok []
  | skip + 1, position, _ :: rest => fillFrom data text skip (position + 1) rest
  | 0, position, c :: rest =>
    match placeholder.matchAt? text position with
    | none => do return c :: (← fillFrom data text 0 (position + 1) rest)
    | some s => do
      let here ← replacement data text position s
      return here ++ (← fillFrom data text (s.cursor - position - 1) (position + 1) rest)

/-- Fills the placeholders of a template, by `fillFrom`. Without data it stays as it is. -/
def fill (template : String) (data : List (String × Document)) : Except Fault String :=
  if data.isEmpty then .ok template
  else (fillFrom data template.toList.toArray 0 0 template.toList).map String.ofList

end CatchAudit.Message
