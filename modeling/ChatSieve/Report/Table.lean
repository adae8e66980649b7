import ChatSieve.Catalogue

/-!
# Tables

Cells in columns with borders around them. The catalogue is shown as such a
table.
-/

namespace ChatSieve.Report

/-- The characters of a line between rows. -/
structure Border where
  left : Char
  fill : Char
  between : Char
  right : Char

namespace Border

def top : Border := ⟨'┌', '─', '┬', '┐'⟩
def underHeader : Border := ⟨'╞', '═', '╪', '╡'⟩
def bottom : Border := ⟨'└', '─', '┴', '┘'⟩

/-- The border over columns of some widths, with a place more on either side. -/
def line (b : Border) (widths : List Nat) : String :=
  b.left.toString
    ++ b.between.toString.intercalate
      (widths.map fun w => String.ofList (List.replicate (w + 2) b.fill))
    ++ b.right.toString

end Border

/-- The cells of a row, each filled up with blanks to the width of its column. -/
def rowLine (widths : List Nat) (cells : List String) : String :=
  "│ " ++ " ┆ ".intercalate (List.zipWith
    (fun w cell => cell ++ String.ofList (List.replicate (w - cell.length) ' ')) widths cells)
    ++ " │"

/-- The widths of the columns that some rows need. -/
def columnWidths : List (List String) → List Nat
  | [] => []
  | [row] => row.map String.length
  | row :: rows => List.zipWith max (row.map String.length) (columnWidths rows)

/-- A table of rows with as many cells each as the header. -/
def table (header : List String) (rows : List (List String)) : String :=
  let widths := columnWidths (header :: rows)
  "\n".intercalate ([Border.top.line widths, rowLine widths header, Border.underHeader.line widths]
    ++ rows.map (rowLine widths) ++ [Border.bottom.line widths])

/-- The identifiers that filters may use. -/
def identifiers : String :=
  table ["Identifier", "Label", "Type"]
    (Catalogue.entries.map fun e => [e.name, e.label, e.ty.name])

end ChatSieve.Report
