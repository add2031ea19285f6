/-
Outlines: labels with labels below them, drawn with guide lines. Control characters in labels are
dropped, tabs are filled up, and a label may take several lines, also because it is too wide.
-/
import CatchAudit.Output.Console
import CatchAudit.Output.Wrap

namespace CatchAudit

namespace Outline

/-- Control characters that a terminal would act on. -/
def isDropped (c : Char) : Bool := [7, 8, 11, 12, 13].contains c.toNat

/-- Joins the parts of a line that tabs divide, the first of which begins at `column`. A tab goes on to
the next column that is a multiple of eight. -/
def fillTabs (column : Nat) : List (List Char) → List Char
  | [] => []
  | [part] => part
  | part :: rest =>
    let filled := column + Text.cellWidth (part ++ [' '])
    let more := (8 - filled % 8) % 8
    part ++ List.replicate (more + 1) ' ' ++ fillTabs (filled + more) rest

/-- The number of columns of a page. -/
def columns : Nat := 500

/-- The lines of a label next to a margin, wrapped within the `columns`; none if there is no room. -/
def labelLines (margin : Nat) (label : String) : List String :=
  if columns ≤ margin then []
  else
    ((String.ofList (label.toList.filter fun c => !isDropped c)).splitOn "\n").flatMap fun line =>
      (Wrap.lines (columns - margin) (fillTabs 0 ((line.splitOn "\t").map String.toList))).map String.ofList

/-- Lines of which the first one is led in differently. -/
def leadIn (first others : String) : List String → List String
  | [] => []
  | line :: rest => (first ++ line) :: rest.map (others ++ ·)

mutual
/-- The lines of an item below a margin. -/
def itemLines (margin : String) (last : Bool) : Outline → List String
  | .item label children =>
    let below := margin ++ if last then "    " else "│   "
    leadIn (margin ++ if last then "└── " else "├── ") below (labelLines below.length label) ++
      listLines below children

def listLines (margin : String) : List Outline → List String
  | [] => []
  | x :: rest => itemLines margin rest.isEmpty x ++ listLines margin rest
end

/-- The lines of an outline: the `labelLines` of its label, and the `listLines` of what is below. -/
def lines : Outline → List String
  | .item label children => labelLines 0 label ++ listLines "" children

/-- The text of an outline, of all its `lines`; every line is ended. -/
def text (x : Outline) : String := String.join (x.lines.map (· ++ "\n"))

end Outline

end CatchAudit
