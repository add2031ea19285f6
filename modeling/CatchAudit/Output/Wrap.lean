/-
Lines of a limited width: a line that is too wide is broken before a word, and a word that is wider than
any line is broken wherever it has to be. Blanks at the end of a line do not count against its width
until they are shown, and are cut then.
-/
import CatchAudit.Text.Blank
import CatchAudit.Text.CellWidth

namespace CatchAudit.Wrap

/-! ## Breaks -/

/-- The words after the first, each with the blanks that follow it; `word` holds the current one
reversed, and `ended` tells whether blanks have come after it. -/
def wordsFrom (word : List Char) (ended : Bool) : List Char → List (List Char)
  | [] => [word.reverse]
  | c :: rest =>
    if Text.isBlank c then wordsFrom (c :: word) true rest
    else if ended then word.reverse :: wordsFrom [c] false rest
    else wordsFrom (c :: word) false rest

/-- The words of a line with the blanks after them; the first has those before it as well. A line of
blanks has none. -/
def words (cs : List Char) : List (List Char) :=
  let blanks := cs.takeWhile Text.isBlank
  match cs.drop blanks.length with
  | [] => []
  | c :: rest => wordsFrom (c :: blanks.reverse) false rest

/-- Pieces of at most a width; `piece` holds the current one, `size` its width. -/
def piecesFrom (width : Nat) (piece : List Char) (size : Nat) :
    List Text.CellWidth.Cluster → List (List Char)
  | [] => if size = 0 then [] else [piece]
  | c :: rest =>
    if width < size + c.width then piece :: piecesFrom width c.chars c.width rest
    else piecesFrom width (piece ++ c.chars) (size + c.width) rest

/-- A word cut into pieces of at most a width. -/
def pieces (width : Nat) (word : List Char) : List (List Char) :=
  piecesFrom width [] 0 (Text.clusters word)

/-- Where pieces begin, the first of them at `start`; nothing is broken at the start of a line. -/
def starts (start : Nat) : List (List Char) → List Nat
  | [] => []
  | piece :: rest =>
    let later := starts (start + piece.length) rest
    if start = 0 then later else start :: later

/-- The positions at which a line is broken before its words, the first of which begins at `start` when
`filled` columns are taken. -/
def breaksFrom (width filled start : Nat) : List (List Char) → List Nat
  | [] => []
  | word :: rest =>
    let next := start + word.length
    let needed := Text.cellWidth (Text.trimRight word)
    if filled + needed ≤ width then breaksFrom width (filled + Text.cellWidth word) next rest
    else if width < needed then
      let cut := pieces width word
      let filled := (cut.getLast?.map Text.cellWidth).getD filled
      starts start cut ++ breaksFrom width filled next rest
    else start :: breaksFrom width (Text.cellWidth word) next rest

/-- A line cut at ascending positions; `position` is where it begins. -/
def cutAt (position : Nat) (cs : List Char) : List Nat → List (List Char)
  | [] => [cs]
  | b :: rest => cs.take (b - position) :: cutAt b (cs.drop (b - position)) rest

/-! ## Ends of lines -/

/-- A line without those blanks at its end that are one too many, counted in characters. -/
def trimEnd (width : Nat) (line : List Char) : List Char :=
  let blanks := line.length - (Text.trimRight line).length
  line.take (line.length - min blanks (line.length - width))

/-- Each `Cluster` that fits into a width; half a character is shown as a blank. -/
def fitting : (width : Nat) → List Text.CellWidth.Cluster → List Char
  | _, [] => []
  | width, c :: rest =>
    if c.width ≤ width then c.chars ++ fitting (width - c.width) rest
    else if width = 0 then []
    else [' ']

/-- A line, cut to a width. -/
def crop (width : Nat) (line : List Char) : List Char :=
  if Text.cellWidth line ≤ width then line else fitting width (Text.clusters line)

/-- The lines that one line becomes in a width. -/
def lines (width : Nat) (cs : List Char) : List (List Char) :=
  (cutAt 0 cs (breaksFrom width 0 0 (words cs))).map fun line => crop width (trimEnd width line)

end CatchAudit.Wrap
