/-
Exclusion lines as ignore files have them. A line names paths by segments between slashes, with wildcards
inside segments and double stars for any segments; it becomes a search pattern. An exclamation mark turns
the line round, a hash makes it a comment.
-/
import CatchAudit.Exclusion.Rule
import CatchAudit.Files.Path
import CatchAudit.Pattern.Search
import CatchAudit.Text.Blank

namespace CatchAudit

/-- A line that excludes, or takes back in, the paths that its pattern is found in. -/
structure ExclusionLine where
  excludes : Bool
  pattern : SearchPattern
  deriving Repr

namespace ExclusionLine

/-- The rule of a line, which accepts a path if the pattern `isIn` it. -/
def rule (x : ExclusionLine) : ExclusionRule := ⟨x.excludes, x.pattern.isIn⟩

/-! ## Segments -/

/-- Characters with a meaning of their own in patterns. -/
def specialChars : List Char :=
  "()[]\x7b\x7d?*+-|^$\\.&~# \t\n\r".toList ++ [Char.ofNat 11, Char.ofNat 12]

/-- The pattern text for a character as it stands. -/
def literal (c : Char) : List Char := if specialChars.contains c then ['\\', c] else [c]

/-- The number of characters up to and with the bracket that closes a set. A negation and a bracket
right at the start come before. -/
def setLength? (cs : List Char) : Option Nat :=
  let mark := match cs with
    | '!' :: _ => 1
    | '^' :: _ => 1
    | _ => 0
  let first := match cs.drop mark with
    | ']' :: _ => 1
    | _ => 0
  let n := mark + first + ((cs.drop (mark + first)).takeWhile (· ≠ ']')).length
  if n < cs.length then some (n + 1) else none

/-- The pattern text for a set, given with its closing bracket. -/
def setText (cs : List Char) : List Char :=
  let body (cs : List Char) := cs.flatMap fun c => if c = '\\' then ['\\', '\\'] else [c]
  match cs with
  | '!' :: rest => '[' :: '^' :: body rest
  | '^' :: rest => '[' :: '^' :: body rest
  | _ => '[' :: body cs

/-- The pattern text for a segment, of which `skip` characters belong to a set already read.
None if a backslash stands at the end. -/
def segmentFrom : (skip : Nat) → List Char → Option (List Char)
  | _, [] => some []
  | skip + 1, _ :: rest => segmentFrom skip rest
  | 0, '\\' :: rest => match rest with
    | [] => none
    | c :: rest => (segmentFrom 0 rest).map (literal c ++ ·)
  | 0, '*' :: rest => (segmentFrom 0 rest).map ("[^/]*".toList ++ ·)
  | 0, '?' :: rest => (segmentFrom 0 rest).map ("[^/]".toList ++ ·)
  | 0, '[' :: rest => match setLength? rest with
    | some n => (segmentFrom n rest).map (setText (rest.take n) ++ ·)
    | none => (segmentFrom 0 rest).map ("\\[".toList ++ ·)
  | 0, c :: rest => (segmentFrom 0 rest).map (literal c ++ ·)

/-! ## Paths of segments -/

abbrev Segment := List Char

def stars : Segment := ['*', '*']

/-- Neighbouring double stars are one. -/
def joinStars : List Segment → List Segment
  | [] => []
  | s :: rest =>
    match joinStars rest with
    | t :: more => if s = stars ∧ t = stars then t :: more else s :: t :: more
    | [] => [s]

/-- The segments from the root of the project on: a slash at the start ties a line to the root, and a single segment
without one may stand anywhere, after `stars`. -/
def anchored : List Segment → List Segment
  | [] => []
  | [] :: rest => rest
  | [s] => if s = stars then [s] else [stars, s]
  | [s, []] => if s = stars then [s, []] else [stars, s, []]
  | segments => segments

/-- An empty segment at the end stands for everything below. -/
def closed (segments : List Segment) : List Segment :=
  match segments.getLast? with
  | some [] => segments.dropLast ++ [stars]
  | _ => segments

/-- The segments that a line stands for, `anchored`, `closed` and with `joinStars`. -/
def normal (segments : List Segment) : List Segment := joinStars (closed (anchored segments))

/-- The pattern text for segments after the first; `slash` tells whether one is needed before the next
name. -/
def restText (slash : Bool) : List Segment → Option (List Char)
  | [] => some []
  | s :: rest =>
    if s = stars then
      if rest.isEmpty then some ['/']
      else (restText true rest).map ("(?:/.+)?".toList ++ ·)
    else do
      let lead := if slash then ['/'] else []
      let name ← if s = ['*'] then some "[^/]+".toList else segmentFrom 0 s
      let ending := if rest.isEmpty then "(?:/|$)".toList else []
      let others ← restText true rest
      return lead ++ name ++ ending ++ others

/-- The pattern text for `normal` segments. -/
def patternText (directoriesOnly : Bool) (segments : List Segment) : Option (List Char) :=
  let slashOrAny := if directoriesOnly then ['/'] else ['.']
  match segments with
  | [] => none
  | [s] => if s = stars then some slashOrAny else (restText false [s]).map ('^' :: ·)
  | s :: rest =>
    if s = stars ∧ rest = [['*']] then some ['.']
    else if s = stars ∧ rest = [['*'], stars] then some ['/']
    else if s = stars then (restText false rest).map ("^(?:.+/)?".toList ++ ·)
    else (restText false (s :: rest)).map ('^' :: ·)

/-! ## Lines -/

/-- Blanks at the end do not count, unless the last one is escaped. -/
def trimmed (cs : List Char) : List Char :=
  match cs.reverse with
  | ' ' :: '\\' :: _ => cs
  | _ => Text.trimRight cs

/-- What a line stands for, by its `patternText`; nothing for a comment and for a line that says nothing. -/
def ofText (line : String) : Except LineError (Option ExclusionLine) :=
  let build (excludes : Bool) (cs : List Char) : Except LineError (Option ExclusionLine) :=
    let segments := Path.splitFrom [] cs
    match patternText (segments.getLast? = some []) (normal segments) with
    | none => .error .malformed
    | some text =>
      let source := String.ofList text
      match SearchPattern.parse source with
      | .ok p => .ok (some ⟨excludes, p⟩)
      | .error e => .error (.pattern source e)
  match trimmed line.toList with
  | [] => .ok none
  | '#' :: _ => .ok none
  | ['/'] => .ok none
  | '!' :: rest => build false rest
  | cs => build true cs

end ExclusionLine

end CatchAudit
