import Deckhand.Screen.Line

namespace Deckhand.Screen

structure Box where
  rect : Rect
  title : String
  color : Color
deriving DecidableEq, Inhabited

namespace Box

def inside (box : Box) : Rect := box.rect.interior

def border (box : Box) : Picture :=
  let ⟨x, y, width, height⟩ := box.rect
  let right := box.rect.right - 1
  let bottom := box.rect.bottom - 1
  let line (rect : Rect) (symbol : String) := Picture.fill rect (.write symbol (.inColor box.color))
  line ⟨x, y, 1, height⟩ "│" ++ line ⟨x, y, width, 1⟩ "─" ++ line ⟨right, y, 1, height⟩ "│" ++
    line ⟨x, bottom, width, 1⟩ "─" ++ line ⟨right, bottom, 1, 1⟩ "┘" ++ line ⟨right, y, 1, 1⟩ "┐" ++
    line ⟨x, bottom, 1, 1⟩ "└" ++ line ⟨x, y, 1, 1⟩ "┌"

def caption (box : Box) : Picture :=
  Line.picture (Line.styled (" " ++ box.title ++ " ") (Style.inColor box.color).bold)
    ⟨box.rect.x + 1, box.rect.y, box.rect.width - 2, 1⟩

/-- Empties the box and draws its border; the title stands on the upper one. -/
def picture (box : Box) : Picture :=
  Picture.clear box.rect ++ Picture.within (box.border ++ box.caption) box.rect

end Box

end Deckhand.Screen
