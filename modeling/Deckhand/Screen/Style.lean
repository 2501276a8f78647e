namespace Deckhand.Screen

inductive Color where
  | reset
  | black
  | red
  | green
  | yellow
  | blue
  | magenta
  | cyan
  | gray
  | darkGray
  | lightRed
  | lightGreen
  | lightYellow
  | lightBlue
  | lightMagenta
  | lightCyan
  | white
  | rgb (red green blue : UInt8)
  | indexed (index : UInt8)
deriving DecidableEq, Inhabited

namespace Color

def hexByte (n : UInt8) : String :=
  let digit (d : Nat) : Char := if d < 10 then Char.ofNat (48 + d) else Char.ofNat (55 + d)
  String.ofList [digit (n.toNat / 16), digit (n.toNat % 16)]

def name : Color → String
  | reset => "Reset"
  | black => "Black"
  | red => "Red"
  | green => "Green"
  | yellow => "Yellow"
  | blue => "Blue"
  | magenta => "Magenta"
  | cyan => "Cyan"
  | gray => "Gray"
  | darkGray => "DarkGray"
  | lightRed => "LightRed"
  | lightGreen => "LightGreen"
  | lightYellow => "LightYellow"
  | lightBlue => "LightBlue"
  | lightMagenta => "LightMagenta"
  | lightCyan => "LightCyan"
  | white => "White"
  | rgb r g b => "#" ++ hexByte r ++ hexByte g ++ hexByte b
  | indexed n => toString n.toNat

end Color

inductive Modifier where
  | bold
  | dim
  | italic
  | underlined
  | slowBlink
  | rapidBlink
  | reversed
  | hidden
  | crossedOut
deriving DecidableEq, Inhabited

namespace Modifier

def all : List Modifier :=
  [bold, dim, italic, underlined, slowBlink, rapidBlink, reversed, hidden, crossedOut]

def name : Modifier → String
  | bold => "BOLD"
  | dim => "DIM"
  | italic => "ITALIC"
  | underlined => "UNDERLINED"
  | slowBlink => "SLOW_BLINK"
  | rapidBlink => "RAPID_BLINK"
  | reversed => "REVERSED"
  | hidden => "HIDDEN"
  | crossedOut => "CROSSED_OUT"

end Modifier

structure Modifiers where
  bits : BitVec 9
deriving DecidableEq, Inhabited

namespace Modifiers

def empty : Modifiers := ⟨0⟩

def full : Modifiers := ⟨BitVec.allOnes 9⟩

def single : Modifier → Modifiers
  | .bold => ⟨1#9⟩
  | .dim => ⟨2#9⟩
  | .italic => ⟨4#9⟩
  | .underlined => ⟨8#9⟩
  | .slowBlink => ⟨16#9⟩
  | .rapidBlink => ⟨32#9⟩
  | .reversed => ⟨64#9⟩
  | .hidden => ⟨128#9⟩
  | .crossedOut => ⟨256#9⟩

def union (ms ns : Modifiers) : Modifiers := ⟨ms.bits ||| ns.bits⟩

def diff (ms ns : Modifiers) : Modifiers := ⟨ms.bits &&& ~~~ns.bits⟩

def contains (ms : Modifiers) (m : Modifier) : Bool := (ms.bits &&& (single m).bits) != 0#9

end Modifiers

structure Look where
  foreground : Color := .reset
  background : Color := .reset
  modifiers : Modifiers := .empty
deriving DecidableEq, Inhabited

def Look.description (look : Look) : String :=
  let colors :=
    (if look.foreground = .reset then [] else ["fg=" ++ look.foreground.name]) ++
      (if look.background = .reset then [] else ["bg=" ++ look.background.name])
  " ".intercalate (colors ++ (Modifier.all.filter look.modifiers.contains).map (·.name))

/-- A change of a look. What it leaves open stays as it is. -/
structure Style where
  foreground : Option Color := none
  background : Option Color := none
  added : Modifiers := .empty
  removed : Modifiers := .empty
deriving DecidableEq, Inhabited

namespace Style

def plain : Style := {}

def reset : Style := ⟨some .reset, some .reset, .empty, .full⟩

def inColor (color : Color) : Style := { foreground := some color }

def selected : Style := { added := .single .reversed }

def dimmed : Style := inColor .gray

def muted : Style := inColor .darkGray

def withForeground (style : Style) (color : Color) : Style :=
  { style with foreground := some color }

def withBackground (style : Style) (color : Color) : Style :=
  { style with background := some color }

def adding (style : Style) (modifier : Modifier) : Style :=
  { style with
    added := style.added.union (.single modifier)
    removed := style.removed.diff (.single modifier) }

def removing (style : Style) (modifier : Modifier) : Style :=
  { style with
    added := style.added.diff (.single modifier)
    removed := style.removed.union (.single modifier) }

def bold (style : Style) : Style := style.adding .bold

def accented : Style := (inColor .cyan).bold

def andThen (first second : Style) : Style where
  foreground := second.foreground.or first.foreground
  background := second.background.or first.background
  added := (first.added.diff second.removed).union second.added
  removed := (first.removed.diff second.added).union second.removed

def apply (style : Style) (look : Look) : Look where
  foreground := style.foreground.getD look.foreground
  background := style.background.getD look.background
  modifiers := (look.modifiers.union style.added).diff style.removed

end Style

end Deckhand.Screen
