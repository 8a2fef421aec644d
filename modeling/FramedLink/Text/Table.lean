import FramedLink.Text.Width

/-!
# Ruled tables

A table with a heading and rows, drawn with box characters. Each cell has a blank on both sides, a
column is as wide as its widest cell, the heading is closed by a double rule and rows are parted by
dashed ones.
-/

namespace FramedLink.Text

structure Table where
  heading : List String
  rows : List (List String)

namespace Table

/-- The characters of a horizontal rule: left end, line, crossing, right end. -/
structure Rule where
  left : String
  line : Char
  crossing : String
  right : String

def topRule : Rule := ⟨"┌", '─', "┬", "┐"⟩

def headingRule : Rule := ⟨"╞", '═', "╪", "╡"⟩

def rowRule : Rule := ⟨"├", '╌', "┼", "┤"⟩

def bottomRule : Rule := ⟨"└", '─', "┴", "┘"⟩

def columnWidths (table : Table) : List Nat :=
  table.rows.foldl (fun widths row ↦ List.zipWith max widths (row.map width))
    (table.heading.map width)

/-- A rule over columns of the given widths; the blanks around the cells are ruled over as well. -/
def drawRule (rule : Rule) (widths : List Nat) : String :=
  rule.left ++
    rule.crossing.intercalate (widths.map fun columns ↦ "".pushn rule.line (columns + 2)) ++
    rule.right

/-- A line of cells, each filled with blanks to the width of its column. -/
def drawRow (widths : List Nat) (cells : List String) : String :=
  let filled := List.zipWith
    (fun columns cell ↦ " " ++ cell.pushn ' ' (columns - width cell) ++ " ") widths cells
  "│" ++ "┆".intercalate filled ++ "│"

def draw (table : Table) : String :=
  let widths := table.columnWidths
  let rows := (table.rows.map (drawRow widths)).intersperse (drawRule rowRule widths)
  "\n".intercalate
    ([drawRule topRule widths, drawRow widths table.heading, drawRule headingRule widths]
      ++ rows ++ [drawRule bottomRule widths])

end Table

end FramedLink.Text
