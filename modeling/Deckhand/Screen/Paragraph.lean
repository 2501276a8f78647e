import Deckhand.Screen.Line
import Deckhand.Text.Blank

namespace Deckhand.Screen

namespace Glyph

def isBlank (glyph : Glyph) : Bool :=
  glyph.symbol = "\u200b" ||
    (glyph.symbol.toList.all Text.isBlank && glyph.symbol ≠ "\u00a0")

def totalWidth (glyphs : List Glyph) : Nat := (glyphs.map (·.width)).foldr (· + ·) 0

end Glyph

def cutTo (limit : Nat) (glyphs : List Glyph) : List Glyph :=
  let fitting := glyphs.filter (·.width ≤ limit)
  go limit fitting
where
  go (room : Nat) : List Glyph → List Glyph
    | [] => []
    | glyph :: rest => if room < glyph.width then [] else glyph :: go (room - glyph.width) rest

/-- A line that is being wrapped: the lines that are finished, and of the rest first what is settled
on the current line, then blanks, then the word that follows them. -/
structure Wrapping where
  finished : List (List Glyph)
  settled : List Glyph
  blanks : List Glyph
  word : List Glyph
  inWord : Bool
deriving DecidableEq, Inhabited

namespace Wrapping

def start : Wrapping := ⟨[], [], [], [], false⟩

def settle (state : Wrapping) : Wrapping :=
  { state with settled := state.settled ++ state.blanks ++ state.word, blanks := [], word := [] }

/-- The blanks that do not fit any more into `room` columns at the end of a line. -/
def dropFitting (room : Nat) : List Glyph → List Glyph
  | [] => []
  | glyph :: rest =>
    if room < glyph.width then glyph :: rest else dropFitting (room - glyph.width) rest

/-- Ends the current line. The blanks that its end has room for vanish. -/
def breakLine (state : Wrapping) (limit : Nat) : Wrapping :=
  { state with
    finished := state.finished ++ [state.settled]
    settled := []
    blanks := dropFitting (limit - Glyph.totalWidth state.settled) state.blanks }

def push (state : Wrapping) (glyph : Glyph) : Wrapping :=
  if glyph.isBlank then { state with blanks := state.blanks ++ [glyph], inWord := false }
  else { state with word := state.word ++ [glyph], inWord := true }

def step (limit : Nat) (state : Wrapping) (glyph : Glyph) : Wrapping :=
  if limit < glyph.width then state
  else
    let pending (state : Wrapping) := Glyph.totalWidth (state.blanks ++ state.word)
    let state :=
      if state.inWord && glyph.isBlank
          || state.settled.isEmpty && limit < pending state + glyph.width then state.settle
      else state
    let taken := Glyph.totalWidth state.settled
    if limit ≤ taken || 0 < glyph.width && limit ≤ taken + pending state then
      let state := state.breakLine limit
      if glyph.isBlank && state.blanks.isEmpty then state else state.push glyph
    else state.push glyph

def finish (state : Wrapping) : List (List Glyph) :=
  let early :=
    if state.settled.isEmpty && state.word.isEmpty && !state.blanks.isEmpty then
      state.finished ++ [[]]
    else state.finished
  let last := state.settle.settled
  let lines := if last.isEmpty then early else early ++ [last]
  if lines.isEmpty then [[]] else lines

end Wrapping

def wrapTo (limit : Nat) (glyphs : List Glyph) : List (List Glyph) :=
  (glyphs.foldl (Wrapping.step limit) .start).finish

structure Paragraph where
  lines : List Line
  style : Style := .plain
  scroll : Nat := 0
  wraps : Bool := false
deriving DecidableEq, Inhabited

namespace Paragraph

def ofLine (line : Line) : Paragraph := { lines := [line] }

def rows (paragraph : Paragraph) (width height : Nat) : List (List Glyph) :=
  if paragraph.wraps then
    (((paragraph.lines.take (paragraph.scroll + height)).flatMap (wrapTo width ·.glyphs)).drop
      paragraph.scroll).take height
  else ((paragraph.lines.drop paragraph.scroll).take height).map (cutTo width ·.glyphs)

/-- Glyphs from column `x` on. Those that take no column are not shown. -/
def placeRow (y x : Nat) : List Glyph → Picture
  | [] => []
  | glyph :: rest =>
    if glyph.width = 0 then placeRow y x rest
    else ⟨x, y, .write glyph.symbol glyph.style⟩ :: placeRow y (x + glyph.width) rest

def picture (paragraph : Paragraph) (area : Rect) : Picture :=
  Picture.within
    (Picture.restyle area paragraph.style ++
      ((paragraph.rows area.width area.height).zipIdx.flatMap fun (row, i) =>
        placeRow (area.y + i) area.x row))
    area

end Paragraph

end Deckhand.Screen
