/-
Tables drawn with lines: a title in the middle, a heading, and rows.
-/
import CatchAudit.Output.Console

namespace CatchAudit

namespace Table

/-- The characters of a horizontal line. -/
structure Rule where
  left : String
  fill : Char
  between : String
  right : String

def fillRight (width : Nat) (s : String) : String :=
  s ++ String.ofList (List.replicate (width - s.length) ' ')

/-- The width of each column: that of its widest cell. -/
def widths (t : Table) : List Nat :=
  t.rows.foldl (fun ws row => ws.zipWith max (row.map String.length)) (t.heading.map String.length)

def ruleLine (r : Rule) (widths : List Nat) : String :=
  r.left ++ r.between.intercalate (widths.map fun w => String.ofList (List.replicate (w + 2) r.fill)) ++
    r.right

def rowLine (bar : String) (widths : List Nat) (cells : List String) : String :=
  bar ++ bar.intercalate (widths.zipWith (fun w cell => " " ++ fillRight w cell ++ " ") cells) ++ bar

/-- A text in the middle of a line, a blank more on the right if it does not come out even. -/
def centred (width : Nat) (s : String) : String :=
  let left := (width - s.length) / 2
  fillRight width (String.ofList (List.replicate left ' ') ++ s)

def lines (t : Table) : List String :=
  let ws := t.widths
  let total := ws.foldl (fun n w => n + w + 3) 1
  [centred total t.title,
    ruleLine ⟨"┏", '━', "┳", "┓"⟩ ws,
    rowLine "┃" ws t.heading,
    ruleLine ⟨"┡", '━', "╇", "┩"⟩ ws] ++
  t.rows.map (rowLine "│" ws) ++
  [ruleLine ⟨"└", '─', "┴", "┘"⟩ ws]

def text (t : Table) : String := String.join (t.lines.map (· ++ "\n"))

end Table

end CatchAudit
