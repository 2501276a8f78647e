import Deckhand.Screen.Canvas
import Deckhand.Text.Lines

namespace Deckhand.Screen

structure Glyph where
  symbol : String
  width : Nat
  style : Style
deriving DecidableEq, Inhabited

structure Span where
  text : String
  style : Style := .plain
deriving DecidableEq, Inhabited

namespace Span

def width (span : Span) : Nat := Text.width span.text

def glyphs (span : Span) : List Glyph :=
  ((Text.clusters span.text.toList).filter (· ≠ ['\n'])).map fun cluster =>
    ⟨String.ofList cluster, Text.clusterWidth cluster, span.style⟩

end Span

abbrev Line := List Span

namespace Line

def ofText (text : String) : Line := [{ text }]

def styled (text : String) (style : Style) : Line := [⟨text, style⟩]

def ofLines (text : String) : List Line :=
  match Text.lines text with
  | [] => [[]]
  | lines => lines.map ofText

def width (line : Line) : Nat := (line.map Span.width).foldr (· + ·) 0

def glyphs (line : Line) : List Glyph := line.flatMap Span.glyphs

/-- Glyphs from column `x` on, up to the first that does not fit before column `right`. The first of
a piece that starts in column `left` is written; one that takes no column joins the symbol before it.
-/
def placeFrom (left right y x : Nat) (first : Bool) : List Glyph → Picture
  | [] => []
  | glyph :: rest =>
    if right < x + glyph.width then []
    else
      let mark : Mark :=
        if first then ⟨x, y, .write glyph.symbol glyph.style⟩
        else if x = left then ⟨x, y, .attach glyph.symbol glyph.style⟩
        else if glyph.width = 0 then ⟨x - 1, y, .attach glyph.symbol glyph.style⟩
        else ⟨x, y, .write glyph.symbol glyph.style⟩
      let covered := Picture.clear ⟨x + 1, y, glyph.width - 1, 1⟩
      mark :: covered ++ placeFrom left right y (x + glyph.width) false rest

def place (right y x : Nat) : Line → Picture
  | [] => []
  | span :: rest =>
    if right ≤ x then []
    else if span.width = 0 then place right y x rest
    else placeFrom x right y x true span.glyphs ++ place right y (x + span.width) rest

def picture (line : Line) (area : Rect) : Picture :=
  (place area.right area.y area.x line).within (area.line 0)

end Line

end Deckhand.Screen
