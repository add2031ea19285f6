/-
Building a TOML document. Tables are opened by headers and by dotted keys; marks on key paths say
which tables may not be opened again and which values may not be added to.
-/
import CatchAudit.Document.Basic

namespace CatchAudit.Toml

/-- The parts of a dotted key. -/
abbrev Key := List String

inductive Mark where
  /-- A value given in one piece; nothing can be added to it. -/
  | frozen
  /-- A table that has been opened and cannot be opened by a header again. -/
  | opened
  deriving DecidableEq, Repr

/-- A mark on a key path, perhaps on everything below it too. -/
structure Marking where
  key : Key
  mark : Mark
  below : Bool

abbrev Marks := List Marking

namespace Marks

/-- Whether a path, or one above it that passes its mark on, has this mark. -/
def has (marks : Marks) (key : Key) (mark : Mark) : Bool :=
  marks.any fun m => m.mark == mark && (m.key == key || (m.below && m.key.isPrefixOf key))

/-- Removes the marks of a path and of everything below it. -/
def clear (marks : Marks) (key : Key) : Marks := marks.filter fun m => !key.isPrefixOf m.key

end Marks

abbrev Members := List (String × Document)

/-- Changes the table at a path, creating what is missing. With `intoLists`, a list of tables stands
for its last table. Fails if something other than a table is on the path. -/
def inTable (intoLists : Bool) (change : Members → Option Members) :
    Key → Members → Option Members
  | [], members => change members
  | part :: rest, members => do
    match (memberOf? part members).getD (.object []) with
    | .object inner =>
      let inner ← inTable intoLists change rest inner
      return setMember part (.object inner) members
    | .list items =>
      match intoLists, items.getLast? with
      | true, some (.object inner) =>
        let inner ← inTable intoLists change rest inner
        return setMember part (.list (items.dropLast ++ [.object inner])) members
      | _, _ => none
    | _ => none

/-- Adds a member that is not there yet. -/
def addMember (name : String) (value : Document) (members : Members) : Option Members :=
  match memberOf? name members with
  | some _ => none
  | none => some (members ++ [(name, value)])

/-- Adds an empty table to a list of tables, or starts such a list. -/
def addTable (name : String) (members : Members) : Option Members :=
  match memberOf? name members with
  | some (.list items) => some (setMember name (.list (items ++ [.object []])) members)
  | some _ => none
  | none => some (members ++ [(name, .list [.object []])])

/-- What has been read of a document. -/
structure Building where
  members : Members
  marks : Marks
  /-- Marks that come into force with the next header. -/
  pending : Marks
  /-- The table that keys belong to. -/
  header : Key

namespace Building

def start : Building := ⟨[], [], [], []⟩

/-- The state when a header begins. -/
def settle (b : Building) : Building := { b with marks := b.marks ++ b.pending, pending := [] }

/-- Opens a table by its header. -/
def openTable (b : Building) (key : Key) : Option Building := do
  if b.marks.has key .opened || b.marks.has key .frozen then none
  else
    let members ← inTable true some key b.members
    return { b with members, marks := b.marks ++ [⟨key, .opened, false⟩], header := key }

/-- Opens a further table of a list by its header. -/
def openListTable (b : Building) (key : Key) : Option Building := do
  if b.marks.has key .frozen then none
  else
    let members ← inTable true (addTable (key.getLastD "")) key.dropLast b.members
    return { b with members, marks := b.marks.clear key ++ [⟨key, .opened, false⟩], header := key }

/-- Whether a value is a list or a table. -/
def isComposite : Document → Bool
  | .list _ | .object _ => true
  | _ => false

/-- Adds a value under a dotted key. -/
def addValue (b : Building) (key : Key) (value : Document) : Option Building := do
  let parent := b.header ++ key.dropLast
  let between := (List.range (key.length - 1)).map fun i => b.header ++ key.take (i + 1)
  if between.any fun k => b.marks.has k .opened then none
  else if b.marks.has parent .frozen then none
  else
    let members ← inTable true (addMember (key.getLastD "") value) parent b.members
    let marks := if isComposite value then [⟨b.header ++ key, .frozen, true⟩] else []
    return { b with
      members
      marks := b.marks ++ marks
      pending := b.pending ++ between.map fun k => ⟨k, .opened, false⟩ }

end Building

end CatchAudit.Toml
