/-!
# Console.Table — a table in a box

A table has a title, a heading with heavy lines around it, and rows between light lines.  A column
is as wide as its widest cell, with a blank on each side; the title stands in the middle.
-/

namespace ReflectiveCalls

/-- A column of a table. -/
structure Table.Column where
  heading : String
  alignRight : Bool
  deriving DecidableEq, Repr

/-- A table. -/
structure Table where
  title : String
  columns : List Table.Column
  rows : List (List String)
  deriving DecidableEq, Repr

namespace Table

/-- The width of a text. -/
def widthOf (text : String) : Nat := text.length

/-- The widths of the columns. -/
def widths (table : Table) : List Nat :=
  table.columns.zipIdx.map fun (column, position) =>
    table.rows.foldl (fun width row => max width (widthOf (row.getD position "")))
      (widthOf column.heading)

/-- Blanks. -/
def blanks (count : Nat) : String := String.ofList (List.replicate count ' ')

/-- A text brought to a width. -/
def padded (alignRight : Bool) (width : Nat) (text : String) : String :=
  let fill := blanks (width - widthOf text)
  if alignRight then fill ++ text else text ++ fill

/-- A text in the middle of a width. -/
def centred (width : Nat) (text : String) : String :=
  let before := (width - widthOf text) / 2
  blanks before ++ text ++ blanks (width - widthOf text - before)

/-- A line between rows: its left end, its filling, its crossings and its right end. -/
def rule (left fill cross right : String) (widths : List Nat) : String :=
  let segment (width : Nat) : String := String.join (List.replicate (width + 2) fill)
  left ++ cross.intercalate (widths.map segment) ++ right

/-- A row of cells between vertical lines. -/
def rowLine (line : String) (columns : List Column) (widths : List Nat) (cells : List String) :
    String :=
  let shown := (columns.zip (widths.zip cells)).map fun (column, width, cell) =>
    " " ++ padded column.alignRight width cell ++ " "
  line ++ line.intercalate shown ++ line

/-- The lines of a table. -/
def lines (table : Table) : List String :=
  let widths := table.widths
  let width := (widths.map (· + 3)).foldr (· + ·) 1
  [ centred width table.title,
    rule "┏" "━" "┳" "┓" widths,
    rowLine "┃" table.columns widths (table.columns.map (·.heading)),
    rule "┡" "━" "╇" "┩" widths ] ++
  table.rows.map (rowLine "│" table.columns widths) ++
  [rule "└" "─" "┴" "┘" widths]

/-- The text of a table. -/
def text (table : Table) : String := String.join (table.lines.map (· ++ "\n"))

end Table
end ReflectiveCalls
