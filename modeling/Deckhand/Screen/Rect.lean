namespace Deckhand.Screen

structure Rect where
  x : Nat
  y : Nat
  width : Nat
  height : Nat
deriving DecidableEq, Inhabited

namespace Rect

def right (rect : Rect) : Nat := rect.x + rect.width

def bottom (rect : Rect) : Nat := rect.y + rect.height

def isEmpty (rect : Rect) : Bool := rect.width = 0 || rect.height = 0

def contains (rect : Rect) (x y : Nat) : Bool :=
  rect.x ≤ x && x < rect.right && rect.y ≤ y && y < rect.bottom

/-- A rectangle in the middle of another, cut to its size. -/
def centered (area : Rect) (width height : Nat) : Rect :=
  let width := min width area.width
  let height := min height area.height
  ⟨area.x + (area.width - width) / 2, area.y + (area.height - height) / 2, width, height⟩

def line (rect : Rect) (index : Nat) : Rect :=
  ⟨rect.x, rect.y + index, rect.width, min (rect.height - index) 1⟩

def lastLine (rect : Rect) : Rect := rect.line (rect.height - 1)

def dropTop (rect : Rect) (count : Nat) : Rect :=
  { rect with y := rect.y + min count rect.height, height := rect.height - count }

def dropBottom (rect : Rect) (count : Nat) : Rect := { rect with height := rect.height - count }

def takeLeft (rect : Rect) (count : Nat) : Rect := { rect with width := min count rect.width }

def dropLeft (rect : Rect) (count : Nat) : Rect :=
  { rect with x := rect.x + min count rect.width, width := rect.width - count }

def interior (rect : Rect) : Rect :=
  let rest := (rect.dropTop 1).dropLeft 1
  ⟨rest.x, rest.y, rest.width - 1, rest.height - 1⟩

end Rect

end Deckhand.Screen
