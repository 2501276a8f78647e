import Deckhand.Screen.Rect
import Deckhand.Screen.Style
import Deckhand.Text.Width

namespace Deckhand.Screen

/-- One column of one line. A symbol wider than the cell covers the next one too. -/
structure Cell where
  symbol : String := " "
  look : Look := {}
deriving DecidableEq, Inhabited

namespace Cell

def blank : Cell := {}

def isWide (cell : Cell) : Bool := decide (1 < Text.width cell.symbol)

end Cell

/-- What may happen to a cell. It does not depend on what the screen shows, so what a cell becomes
is decided by the changes to that cell alone. -/
inductive Change where
  | clear
  | restyle (style : Style)
  | write (symbol : String) (style : Style)
  /-- Adds a symbol that takes no column of its own. -/
  | attach (symbol : String) (style : Style)
deriving DecidableEq, Inhabited

def Cell.change (cell : Cell) : Change → Cell
  | .clear => blank
  | .restyle style => { cell with look := style.apply cell.look }
  | .write symbol style => ⟨symbol, style.apply cell.look⟩
  | .attach symbol style => ⟨cell.symbol ++ symbol, style.apply cell.look⟩

structure Mark where
  x : Nat
  y : Nat
  change : Change
deriving DecidableEq, Inhabited

abbrev Picture := List Mark

namespace Picture

def fill (rect : Rect) (change : Change) : Picture :=
  (List.range rect.height).flatMap fun dy =>
    (List.range rect.width).map fun dx => ⟨rect.x + dx, rect.y + dy, change⟩

def clear (rect : Rect) : Picture := fill rect .clear

def restyle (rect : Rect) (style : Style) : Picture := fill rect (.restyle style)

def within (picture : Picture) (rect : Rect) : Picture :=
  picture.filter fun mark => rect.contains mark.x mark.y

def cellAt (picture : Picture) (x y : Nat) (cell : Cell) : Cell :=
  picture.foldl (fun cell mark => if mark.x = x ∧ mark.y = y then cell.change mark.change else cell)
    cell

theorem contains_of_mem_within {picture : Picture} {rect : Rect} {mark : Mark}
    (h : mark ∈ picture.within rect) : rect.contains mark.x mark.y := by
  simp only [within, List.mem_filter] at h
  exact h.2

end Picture

structure Canvas where
  width : Nat
  height : Nat
  cells : Array Cell
  size_cells : cells.size = width * height
deriving DecidableEq

namespace Canvas

def blank (width height : Nat) : Canvas :=
  ⟨width, height, Array.replicate (width * height) .blank, by simp⟩

instance : Inhabited Canvas := ⟨blank 0 0⟩

def cell? (canvas : Canvas) (x y : Nat) : Option Cell :=
  if x < canvas.width then canvas.cells[y * canvas.width + x]? else none

/-- Makes a change, unless it lies outside the screen. -/
def mark (canvas : Canvas) (mark : Mark) : Canvas :=
  if mark.x < canvas.width then
    { canvas with
      cells := canvas.cells.modify (mark.y * canvas.width + mark.x) (·.change mark.change)
      size_cells := by simp [canvas.size_cells] }
  else canvas

def paint (canvas : Canvas) (picture : Picture) : Canvas := picture.foldl mark canvas

theorem place_eq_iff {width x y x' y' : Nat} (hx : x < width) (hx' : x' < width) :
    y * width + x = y' * width + x' ↔ x = x' ∧ y = y' := by
  constructor
  · intro h
    have hmod := congrArg (· % width) h
    have hdiv := congrArg (· / width) h
    simp only [Nat.mul_add_mod', Nat.mod_eq_of_lt hx, Nat.mod_eq_of_lt hx'] at hmod
    simp only [Nat.mul_comm _ width, Nat.mul_add_div (Nat.zero_lt_of_lt hx),
      Nat.div_eq_of_lt hx, Nat.div_eq_of_lt hx', Nat.add_zero] at hdiv
    exact ⟨hmod, hdiv⟩
  · rintro ⟨rfl, rfl⟩
    rfl

theorem cell?_mark (canvas : Canvas) (mark : Mark) (x y : Nat) :
    (canvas.mark mark).cell? x y = (canvas.cell? x y).map fun cell =>
      if mark.x = x ∧ mark.y = y then cell.change mark.change else cell := by
  unfold Canvas.mark
  split
  · next hm =>
    unfold cell?
    by_cases hx : x < canvas.width
    · simp only [hx, if_true, Array.getElem?_modify, place_eq_iff hm hx]
      by_cases h : mark.x = x ∧ mark.y = y <;> simp [h]
    · simp [hx]
  · next hm =>
    by_cases hx : x < canvas.width
    · have : mark.x ≠ x := by omega
      simp [this]
    · simp [cell?, hx]

theorem cell?_paint (canvas : Canvas) (picture : Picture) (x y : Nat) :
    (canvas.paint picture).cell? x y = (canvas.cell? x y).map (picture.cellAt x y) := by
  unfold paint Picture.cellAt
  induction picture generalizing canvas with
  | nil => simp
  | cons mark rest ih => rw [List.foldl_cons, ih, cell?_mark, Option.map_map]; rfl

/-- The cells as a terminal shows them: a cell after a wide symbol shows nothing of its own. -/
def shownFrom (covered : Bool) : List Cell → List Cell
  | [] => []
  | cell :: rest => (if covered then .blank else cell) :: shownFrom cell.isWide rest

def chunks (width : Nat) (cells : List Cell) : Nat → List (List Cell)
  | 0 => []
  | count + 1 => cells.take width :: chunks width (cells.drop width) count

def shown (canvas : Canvas) : List (List Cell) :=
  chunks canvas.width (shownFrom false canvas.cells.toList) canvas.height

def lineText (cells : List Cell) : String :=
  let symbols := (cells.map (·.symbol)).flatMap String.toList
  String.ofList (symbols.reverse.dropWhile (· = ' ')).reverse

def lines (canvas : Canvas) : List String := canvas.shown.map lineText

end Canvas

structure Run where
  y : Nat
  x : Nat
  length : Nat
  look : Look
deriving DecidableEq, Inhabited

namespace Canvas

def lineRuns (y x : Nat) : List Cell → List Run
  | [] => []
  | cell :: rest =>
    match lineRuns y (x + 1) rest with
    | [] => [⟨y, x, 1, cell.look⟩]
    | run :: runs =>
      if run.look = cell.look then ⟨y, x, run.length + 1, run.look⟩ :: runs
      else ⟨y, x, 1, cell.look⟩ :: run :: runs

def runs (canvas : Canvas) : List Run :=
  (canvas.shown.zipIdx.flatMap fun (cells, y) => lineRuns y 0 cells).filter (·.look ≠ {})

end Canvas

end Deckhand.Screen
