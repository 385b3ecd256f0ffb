import GenericSignature.Text.Width

/-!
# Tables

Tables for the terminal, with borders drawn around the cells.  Each column is as wide as its widest
cell, with a space on either side; cells start at the left.  Widths are counted as the terminal
shows them.
-/

namespace GenericSignature

/-- A table: the titles of its columns, and its rows. -/
structure Table where
  header : List String
  rows : List (List String)
deriving Repr, Inhabited

namespace Table

/-- The characters of a horizontal border: its left end, its line, its crossings, its right
end. -/
structure Border where
  left : String
  line : Char
  cross : String
  right : String

/-- The border above the header. -/
def Border.top : Border := ⟨"┏", '━', "┳", "┓"⟩

/-- The border below the header. -/
def Border.middle : Border := ⟨"┡", '━', "╇", "┩"⟩

/-- The border below the last row. -/
def Border.bottom : Border := ⟨"└", '─', "┴", "┘"⟩

/-- The widths of two sets of columns, taken together. -/
def widen : List Nat → List String → List Nat
  | width :: widths, cell :: cells => max width (Text.width cell) :: widen widths cells
  | widths, [] => widths
  | [], cells => cells.map Text.width

/-- The widths of the columns: of the widest cell in each. -/
def widths (table : Table) : List Nat :=
  table.rows.foldl widen (table.header.map Text.width)

/-- A text filled up with spaces to a width. -/
def padded (width : Nat) (cell : String) : String :=
  cell ++ String.ofList (List.replicate (width - Text.width cell) ' ')

/-- A line of cells between bars. -/
def row (bar : String) (widths : List Nat) (cells : List String) : String :=
  bar ++ String.join ((widths.zip cells).map fun (width, cell) =>
    " " ++ padded width cell ++ " " ++ bar)

/-- A horizontal border. -/
def border (shape : Border) (widths : List Nat) : String :=
  shape.left ++ String.intercalate shape.cross
    (widths.map fun width => String.ofList (List.replicate (width + 2) shape.line)) ++ shape.right

/-- A table with its cells changed; nothing if one of them cannot be. -/
def mapCells? (change : String → Option String) (table : Table) : Option Table := do
  return ⟨← table.header.mapM change, ← table.rows.mapM (List.mapM change)⟩

/-- The lines of a table. -/
def lines (table : Table) : List String :=
  let widths := table.widths
  [border .top widths, row "┃" widths table.header, border .middle widths] ++
    table.rows.map (row "│" widths) ++ [border .bottom widths]

/-- A table as a text, with an end after each line. -/
def render (table : Table) : String :=
  String.join (table.lines.map fun line => line ++ "\n")

end Table

end GenericSignature
