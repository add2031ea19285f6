/-
Globs: paths whose parts may hold `*`, `?` and bracketed sets of characters, and in which a part of
two stars stands for any directories in between. Names that start with a point are matched like any
other.
-/
import CatchAudit.Files.FileTree

namespace CatchAudit

namespace Glob

/-- A piece of a name pattern, for `matchPieces`. -/
inductive Piece where
  | exactly (c : Char)
  | anyOne
  | anyMany
  /-- One character inside the ranges, or outside them when negated. -/
  | oneOf (negated : Bool) (ranges : List (Char × Char))
  deriving DecidableEq, Repr

/-! ## Sets of characters -/

/-- Cuts a set at its hyphens. A hyphen counts when a character stands before it, and two characters
stand between it and the one before. `chunk` is reversed and `room` says how many characters the
next hyphen still has to wait for. -/
def chunksFrom (chunk : List Char) : (room : Nat) → List Char → List (List Char)
  | _, [] => [chunk.reverse]
  | 0, '-' :: rest => chunk.reverse :: chunksFrom [] 2 rest
  | room, c :: rest => chunksFrom (c :: chunk) (room - 1) rest

/-- A hyphen at the very end stands for itself. -/
def closeChunks : List (List Char) → List (List Char)
  | [] => []
  | [c, []] => [c ++ ['-']]
  | c :: rest => c :: closeChunks rest

/-- Two neighbouring chunks span a range; a range that runs backwards is dropped with its ends. -/
def dropBackward : List (List Char) → List (List Char)
  | [] => []
  | c :: rest =>
    match dropBackward rest with
    | [] => [c]
    | next :: more =>
      match c.getLast?, next.head? with
      | some a, some b => if b < a then (c.dropLast ++ next.tail) :: more else c :: next :: more
      | _, _ => c :: next :: more

def single (c : Char) : Char × Char := (c, c)

/-- The ranges between neighbouring chunks and the characters inside them. -/
def rangesOf : List (List Char) → List (Char × Char)
  | [] => []
  | [c] => c.map single
  | c :: next :: rest =>
    match c.getLast?, next.head? with
    | some a, some b => c.map single ++ (a, b) :: rangesOf (next :: rest)
    | _, _ => c.map single ++ rangesOf (next :: rest)

/-- The set between brackets, of the `rangesOf` its chunks. An exclamation mark at the start negates it. -/
def setPiece (body : List Char) : Piece :=
  let (negated, cs) := match body with
    | '!' :: rest => (true, rest)
    | _ => (false, body)
  .oneOf negated (rangesOf (dropBackward (closeChunks (chunksFrom [] 1 cs))))

/-- The number of characters up to the bracket that closes a set; a bracket right at the start, or
after the exclamation mark, belongs to the set. -/
def setLength? (cs : List Char) : Option Nat :=
  let mark := match cs with
    | '!' :: _ => 1
    | _ => 0
  let first := match cs.drop mark with
    | ']' :: _ => 1
    | _ => 0
  let inner := (cs.drop (mark + first)).takeWhile (· ≠ ']')
  let n := mark + first + inner.length
  if n < cs.length then some n else none

/-- The pieces of a name pattern; `skip` characters belong to a set that has been read. -/
def piecesFrom : (skip : Nat) → List Char → List Piece
  | _, [] => []
  | skip + 1, _ :: rest => piecesFrom skip rest
  | 0, '*' :: rest => .anyMany :: piecesFrom 0 rest
  | 0, '?' :: rest => .anyOne :: piecesFrom 0 rest
  | 0, '[' :: rest =>
    match setLength? rest with
    | none => .exactly '[' :: piecesFrom 0 rest
    | some n => setPiece (rest.take n) :: piecesFrom (n + 1) rest
  | 0, c :: rest => .exactly c :: piecesFrom 0 rest

def pieces (cs : List Char) : List Piece := piecesFrom 0 cs

def Piece.accepts (c : Char) : Piece → Bool
  | .exactly d => c == d
  | .anyOne => true
  | .anyMany => true
  | .oneOf negated ranges => (ranges.any fun r => r.1 ≤ c && c ≤ r.2) != negated

/-- Whether the pieces match the whole name. -/
def matchPieces : List Piece → List Char → Bool
  | [], [] => true
  | [], _ :: _ => false
  | .anyMany :: rest, cs => matchMany rest cs
  | _ :: _, [] => false
  | p :: rest, c :: cs => p.accepts c && matchPieces rest cs
where
  /-- Any number of characters, then the pieces. -/
  matchMany (rest : List Piece) : List Char → Bool
    | [] => matchPieces rest []
    | c :: cs => matchPieces rest (c :: cs) || matchMany rest cs

/-! ## Patterns -/

inductive Part where
  /-- Two stars: any directories in between. -/
  | directories
  | named (name : String)
  | matching (pieces : List Piece)
  deriving Repr

/-- Why a text is no glob. -/
inductive GlobError where
  | empty
  | notRelative
  | noParts
  | onlySlash
  | starsInPart
  deriving DecidableEq, Repr

def GlobError.message : GlobError → String
  | .empty => "Unacceptable pattern: ''"
  | .notRelative => "Non-relative patterns are unsupported"
  | .noParts => "tuple index out of range"
  | .onlySlash => "'_TerminatingSelector' object has no attribute 'select_from'"
  | .starsInPart => "Invalid pattern: '**' can only be an entire path component"

def hasDoubleStar : List Char → Bool
  | '*' :: '*' :: _ => true
  | _ :: rest => hasDoubleStar rest
  | [] => false

def partOf (s : String) : Except GlobError Part :=
  let cs := s.toList
  if s = "**" then .ok .directories
  else if hasDoubleStar cs then .error .starsInPart
  else if cs.any fun c => c == '*' || c == '?' || c == '[' then .ok (.matching (pieces cs))
  else .ok (.named s)

end Glob

/-- The parts of a glob, as `parse` reads them; one that ends in a slash finds directories only. -/
structure Glob where
  parts : List Glob.Part
  directoriesOnly : Bool
  deriving Repr

namespace Glob

def parse (s : String) : Except GlobError Glob := do
  if s.isEmpty then .error .empty
  let p := Path.parse s
  if p.isAbsolute then .error .notRelative
  let trailing := s.toList.getLast? == some '/'
  if p.parts.isEmpty then .error (if trailing then .onlySlash else .noParts)
  let parts ← p.parts.mapM partOf
  return ⟨parts, trailing⟩

mutual
/-- What `each` finds in a directory and in the directories below it, all of which are listed. -/
def belowEntry (t : FileTree) (each : Path → Except FileError (List Path)) (p : Path) :
    Entry → Except FileError (List Path)
  | .file _ => .ok []
  | .directory entries => do
    let here ← each p
    let _ ← t.list p
    return here ++ (← belowEntries t each p entries)

def belowEntries (t : FileTree) (each : Path → Except FileError (List Path)) (p : Path) :
    List (String × Entry) → Except FileError (List Path)
  | [] => .ok []
  | (name, e) :: rest => do
    let first ← belowEntry t each (p.child name) e
    return first ++ (← belowEntries t each p rest)
end

/-- Whether by `matchPieces` an entry may be taken for a part; only directories may, if more is to come below it. -/
def fits (inner : Bool) (pieces : List Piece) : String × Entry → Bool
  | (name, .directory _) => matchPieces pieces name.toList
  | (name, .file _) => !inner && matchPieces pieces name.toList

/-- The paths below `p`, a directory, that the parts lead to. -/
def select (t : FileTree) (directoriesOnly : Bool) (p : Path) :
    List Part → Except FileError (List Path)
  | [] => .ok [p]
  | part :: rest =>
    let inner := directoriesOnly || !rest.isEmpty
    match part with
    | .directories => do
      match t.find p with
      | .ok e => belowEntry t (fun d => select t directoriesOnly d rest) p e
      | .error reason =>
        let _ ← select t directoriesOnly p rest
        .error ⟨reason, p.text⟩
    | .named name => do
      let q := p.child name
      let found ← if inner then t.isDirectory q else t.exists? q
      if found then select t directoriesOnly q rest else return []
    | .matching pieces => do
      let found := (← t.list p).filter (fits inner pieces)
      return (← found.mapM fun f => select t directoriesOnly (p.child f.1) rest).flatten

/-- The paths that a glob finds below a directory, which `select` finds. -/
def find (t : FileTree) (g : Glob) (p : Path) : Except FileError (List Path) := do
  if ← t.isDirectory p then select t g.directoriesOnly p g.parts else return []

end Glob

end CatchAudit
