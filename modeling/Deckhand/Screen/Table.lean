import Deckhand.Screen.Line

namespace Deckhand.Screen

structure Table where
  headers : List String
  rows : List (List String)
  selected : Option Nat
deriving DecidableEq, Inhabited

def roundedDiv (a b : Nat) : Nat := (2 * a + b) / (2 * b)

namespace Table

/-- Where column `index` starts, rounded to hundredths and then to a whole cell. The last column ends
where one more would start but for the space of one cell between columns. -/
def columnStart (width count index : Nat) : Nat :=
  roundedDiv (roundedDiv (100 * index * (width + 1)) count) 100

def columns (width count : Nat) : List (Nat × Nat) :=
  (List.range count).map fun index =>
    let start := columnStart width count index
    (start, if width + 1 < count then 0 else columnStart width count (index + 1) - 1 - start)

/-- The first row that is seen when `height` rows are: the selected row is one of them. -/
def firstRow (selected : Option Nat) (height : Nat) : Nat :=
  match selected with
  | some index => index + 1 - height
  | none => 0

def row (cells : List String) (columns : List (Nat × Nat)) (area : Rect) : Picture :=
  (columns.zip cells).flatMap fun ((start, width), text) =>
    Line.picture (.ofText ((Text.lines text).headD "")) ⟨area.x + start, area.y, width, area.height⟩

/-- The selection is brought back to the last row if there are fewer rows. -/
def selection (table : Table) : Option Nat := table.selected.map (min · (table.rows.length - 1))

def picture (table : Table) (area : Rect) : Picture :=
  let columns := columns area.width (max table.headers.length 1)
  let body := area.dropTop 1
  let first := firstRow table.selection body.height
  let rows := ((table.rows.zipIdx).drop first).take body.height
  let header :=
    Picture.restyle (area.line 0) Style.dimmed.bold ++ row table.headers columns (area.line 0)
  Picture.within
    (header ++ rows.flatMap fun (cells, index) =>
      let line := body.line (index - first)
      row cells columns line ++
        if table.selection = some index then Picture.restyle line .selected else [])
    area

end Table

end Deckhand.Screen
