import Deckhand.Board.Basic
import Deckhand.Screen.Dialogs
import Deckhand.Screen.Hints

namespace Deckhand

namespace Screen

def tabLine (titles : List String) (active : Nat) : Line :=
  [(⟨"│", .muted⟩ : Span)].intercalate
    (titles.zipIdx.map fun (title, index) =>
      [{ text := " " },
        ⟨toString (index + 1) ++ " " ++ title, if index = active then .accented else .plain⟩,
        { text := " " }])

def tabs (titles : List String) (active : Nat) (area : Rect) : Picture :=
  Picture.restyle area .muted ++ (tabLine titles active).picture area

def table (table : TableView) (area : Rect) : Picture :=
  if table.rows.isEmpty then
    Table.picture ⟨table.headers, [], none⟩ area ++
      text [Line.styled "Nothing here yet." .dimmed] (area.line 2)
  else Table.picture ⟨table.headers, table.rows, some table.cursor⟩ area

def notificationLine (width : Nat) : Notification → Line
  | .error message =>
    [⟨"Error: ", (Style.inColor .red).bold⟩, ⟨Text.shorten width message, .inColor .red⟩]
  | .info message => [⟨Text.shorten width message, .inColor .green⟩]

def notification (notification : Notification) (area : Rect) : Picture :=
  Picture.clear area ++ text [notificationLine area.width notification] area

def middle (area : Rect) : Rect := (area.dropTop 1).dropBottom 1

end Screen

open Screen

/-- A screen of less than three lines shows the hints only. -/
def View.picture (view : View) (area : Rect) : Picture :=
  if area.height < 3 then hintBar view.focus area
  else
    Screen.tabs view.tabs view.active (area.line 0) ++
    Screen.table view.table (middle area) ++
    hintBar view.focus area.lastLine ++
    view.dialog.elim [] (Screen.dialog · (middle area)) ++
    view.error.elim [] (Screen.error · (middle area)) ++
    view.notification.elim [] (Screen.notification · area.lastLine)

def View.draw (view : View) (width height : Nat) : Canvas :=
  (Canvas.blank width height).paint (view.picture ⟨0, 0, width, height⟩)

end Deckhand
