/-
Paths: an optional root and the parts below it. Empty parts and single dots vanish when a path is
read; two dots stay. Paths are ordered part by part.
-/

namespace CatchAudit

/-- `root` is empty for a relative path, otherwise one slash, or two for a path that starts with
exactly two. -/
structure Path where
  root : String
  parts : List String
  deriving DecidableEq, Repr, Inhabited

namespace Path

/-- Splits at slashes; `part` holds the current part reversed. -/
def splitFrom (part : List Char) : List Char → List (List Char)
  | [] => [part.reverse]
  | c :: rest => if c = '/' then part.reverse :: splitFrom [] rest else splitFrom (c :: part) rest

/-- The parts of a text between slashes, without empty ones and single dots. -/
def partsOf (cs : List Char) : List String :=
  (splitFrom [] cs).filterMap fun part =>
    if part.isEmpty || part == ['.'] then none else some (String.ofList part)

def parse (s : String) : Path :=
  let cs := s.toList
  let slashes := (cs.takeWhile (· = '/')).length
  let root := if slashes = 0 then "" else if slashes = 2 then "//" else "/"
  ⟨root, partsOf cs⟩

def isAbsolute (p : Path) : Bool := p.root != ""

/-- The path in text; the empty path is a single dot. -/
def text (p : Path) : String :=
  if p.root.isEmpty && p.parts.isEmpty then "." else p.root ++ "/".intercalate p.parts

/-- The root, if there is one, and the parts. -/
def components (p : Path) : List String :=
  if p.isAbsolute then p.root :: p.parts else p.parts

/-- The last part; empty when there is none. -/
def name (p : Path) : String := (p.parts.getLast?).getD ""

def parent (p : Path) : Path := ⟨p.root, p.parts.dropLast⟩

/-- The path of an entry of a directory. -/
def child (p : Path) (name : String) : Path := ⟨p.root, p.parts ++ [name]⟩

/-- The last point of the name and what follows it; empty when the name starts or ends there. -/
def suffix (p : Path) : String :=
  let reversed := p.name.toList.reverse
  let tail := reversed.takeWhile (· ≠ '.')
  let before := (reversed.drop (tail.length + 1))
  if tail.isEmpty || tail.length = reversed.length || before.isEmpty then ""
  else String.ofList ('.' :: tail.reverse)

/-- The path as seen from `base`, which must be a beginning of it. -/
def relativeTo? (p base : Path) : Option Path :=
  if p.root = base.root ∧ p.parts.take base.parts.length = base.parts then
    some ⟨"", p.parts.drop base.parts.length⟩
  else none

/-- The order of lists of texts by their first difference. -/
def lessParts : List String → List String → Bool
  | _, [] => false
  | [], _ :: _ => true
  | a :: as, b :: bs => if a = b then lessParts as bs else decide (a < b)

def less (p q : Path) : Bool := lessParts p.components q.components

end Path

end CatchAudit
