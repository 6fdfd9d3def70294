namespace Dataflow.Text

/-!
# Tables as text

A table is drawn with a line of dashes above, between and below its rows.  Cells stand left in columns
that are as wide as their widest cell.
-/

/-- The greatest of some widths. -/
def widest (widths : List Nat) : Nat := widths.foldl max 0

/-- The widths of the columns of a table whose rows all have so many cells. -/
def columnWidths (columns : Nat) (rows : List (List String)) : List Nat :=
  (List.range columns).map fun column =>
    widest <| rows.map fun row => (row[column]?.getD "").length

/-- A cell with blanks up to the width of its column. -/
def padRight (width : Nat) (cell : String) : String :=
  cell ++ String.ofList (List.replicate (width - cell.length) ' ')

/-- A line of dashes across all columns. -/
def ruler (widths : List Nat) : String :=
  let dashes := widths.map fun width => String.ofList (List.replicate (width + 2) '-')
  "+" ++ String.intercalate "+" dashes ++ "+\n"

/-- A row of cells. -/
def tableRow (widths : List Nat) (cells : List String) : String :=
  let padded := (widths.zip cells).map fun cell => " " ++ padRight cell.1 cell.2 ++ " "
  "|" ++ String.intercalate "|" padded ++ "|\n"

/-- The drawing of a table with a header. -/
def table (header : List String) (rows : List (List String)) : String :=
  let all := header :: rows
  let widths := columnWidths header.length all
  ruler widths ++ String.join (all.map fun row => tableRow widths row ++ ruler widths)

end Dataflow.Text
