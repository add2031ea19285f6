/-
Marked-up text: tags in square brackets set a style and are not shown. A tag starts with a lower-case
letter, a hash, a slash or an at sign; a slash closes a style, the latest one if it names none. A
backslash before a bracket takes its meaning away. Names of emoji between colons are shown as emoji. What
follows the name of a tag with an at sign is not read.
-/
import CatchAudit.Output.Console
import CatchAudit.Output.EmojiCode
import CatchAudit.Output.Style

namespace CatchAudit.Markup

def opensTag (c : Char) : Bool := ('a' ≤ c && c ≤ 'z') || c == '#' || c == '/' || c == '@'

/-- A tag at the start of a text: the number of backslashes before it, and what its brackets hold. -/
def tagAt? (cs : List Char) : Option (Nat × List Char) :=
  let slashes := (cs.takeWhile (· = '\\')).length
  match cs.drop slashes with
  | '[' :: c :: rest =>
    let inner := rest.takeWhile fun c => c ≠ '[' && c ≠ ']'
    match rest.drop inner.length with
    | ']' :: _ => if opensTag c then some (slashes, c :: inner) else none
    | _ => none
  | _ => none

/-- The name that a style is known by. -/
def styleName (cs : List Char) : Except MarkupError String :=
  match Style.normalName cs with
  | .ok name => .ok name
  | .error f => .error (.fault f)

/-- A tag that closes nothing. -/
def nothingToClose (position : Nat) : MarkupError :=
  .malformed ("closing tag '[/]' at position " ++ toString position ++ " has nothing to close")

/-- A tag that closes what is not open. -/
def notOpen (body : List Char) (position : Nat) : MarkupError :=
  .malformed ("closing tag '" ++ String.ofList ('[' :: body ++ [']']) ++ "' at position " ++ toString position ++
    " doesn't match any open tag")

/-- The styles that are open after a tag; `position` is where its bracket stands. -/
def afterTag (styles : List String) (position : Nat) (body : List Char) :
    Except MarkupError (List String) :=
  match body.takeWhile (· ≠ '=') with
  | '/' :: name =>
    if (Text.trim name).isEmpty then
      match styles with
      | [] => .error (nothingToClose position)
      | _ :: rest => .ok rest
    else do
      let style ← styleName (Text.trim name)
      if styles.contains style then return styles.erase style
      else throw (notOpen body position)
  | name => do return (← styleName name) :: styles

/-- Puts a character in front of the first piece of a text. -/
def inFront (c : Char) : List (List Char) → List (List Char)
  | [] => [[c]]
  | piece :: rest => (c :: piece) :: rest

/-- The pieces of the text that is shown, from a position on, after `skip` characters that have been
dealt with. A tag ends a piece; one without meaning is a piece of its own, and so are the backslashes
before it. -/
def piecesFrom (styles : List String) (position : Nat) :
    (skip : Nat) → List Char → Except MarkupError (List (List Char))
  | _, [] => .ok [[]]
  | skip + 1, _ :: rest => piecesFrom styles (position + 1) skip rest
  | 0, c :: rest =>
    match tagAt? (c :: rest) with
    | some (slashes, body) => do
      let kept := List.replicate (slashes / 2) '\\'
      let skip := slashes + body.length + 1
      if slashes % 2 = 1 then
        return [] :: kept :: ('[' :: body ++ [']']) :: (← piecesFrom styles (position + 1) skip rest)
      else
        let styles ← afterTag styles (position + slashes) body
        return [] :: kept :: (← piecesFrom styles (position + 1) skip rest)
    | none =>
      match c, rest with
      | '\\', '[' :: _ => return inFront '[' (← piecesFrom styles (position + 1) 1 rest)
      | _, _ => return inFront c (← piecesFrom styles (position + 1) 0 rest)

/-- The text that is shown for marked-up text, made of the `piecesFrom` its start; emoji codes do not reach over tags.
-/
def plain (s : String) : Except MarkupError String := do
  return String.ofList ((← piecesFrom [] 0 0 s.toList).flatMap EmojiCode.shown)

end CatchAudit.Markup
