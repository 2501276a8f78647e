import Deckhand.Text.Cluster
import Deckhand.Unicode.Width

namespace Deckhand.Text

open Unicode

def charWidth (c : Char) : Nat :=
  let n := c.toNat
  if n < 0x7f then 1
  else if n = 0x17d8 then 3
  else if zeroWidth.contains c then 0
  else if wide.contains c then 2
  else 1

def pictorialSelector : Char := Char.ofNat 0xfe0f

def textualSelector : Char := Char.ofNat 0xfe0e

def zeroWidthJoiner : Char := Char.ofNat 0x200d

def modifiesEmoji (base c : Char) : Bool :=
  0x1f3fb ≤ c.toNat && c.toNat ≤ 0x1f3ff && emojiModifierBase.contains base

def narrowsAsText (c : Char) : Bool :=
  emojiPresentation.contains c && !(0x1f200 ≤ c.toNat && c.toNat ≤ 0x1f2ff)

/-- The width of a cluster of which `before` is the last character read, and `width` the width so
far. Selectors change the width of the character before them; skin tones, and pictographs joined to
a pictograph, add nothing. -/
def widthFrom (before : Char) (width : Nat) : List Char → Nat
  | [] => width
  | c :: rest =>
    if c = pictorialSelector && emoji.contains before then widthFrom c (max width 2) rest
    else if c = textualSelector && narrowsAsText before then widthFrom c (width - 1) rest
    else if modifiesEmoji before c then widthFrom c (max width 2) rest
    else if before = zeroWidthJoiner && width = 2 && pictographic.contains c then
      widthFrom c width rest
    else widthFrom c (width + charWidth c) rest

def clusterWidth : List Char → Nat
  | [] => 0
  | ['\r', '\n'] => 1
  | c :: rest => widthFrom c (charWidth c) rest

def width (text : String) : Nat := ((clusters text.toList).map clusterWidth).foldr (· + ·) 0

end Deckhand.Text
