import Deckhand.Screen.Line

namespace Deckhand.Screen.Ansi

def escape : Char := '\x1b'

def number (cs : List Char) : Option (Nat × List Char) :=
  match cs.takeWhile Char.isDigit with
  | [] => none
  | digits => some (digits.foldl (fun n c => 10 * n + (c.toNat - 48)) 0, cs.dropWhile Char.isDigit)

def byte (cs : List Char) : Option (UInt8 × List Char) :=
  match number cs with
  | some (n, rest) => if n < 256 then some (UInt8.ofNat n, rest) else none
  | none => none

def semicolon? : List Char → Option (List Char)
  | ';' :: rest => some rest
  | _ => none

def skipSemicolon : List Char → List Char
  | ';' :: rest => rest
  | cs => cs

def skipPlus : List Char → List Char
  | '+' :: rest => rest
  | cs => cs

/-- A colour after the number that says which of the two colours it is for: three bytes after the
number 2, or an index after the number 5. -/
def color (cs : List Char) : Option (Color × List Char) := do
  let (form, cs) ← number (skipPlus cs)
  let cs := skipSemicolon (← semicolon? cs)
  match form with
  | 2 =>
    let (r, cs) ← byte cs
    let cs ← semicolon? cs
    let (g, cs) ← byte cs
    let cs ← semicolon? cs
    let (b, cs) ← byte cs
    some (.rgb r g b, cs)
  | 5 =>
    let (n, cs) ← byte cs
    some (.indexed n, cs)
  | _ => none

inductive Effect where
  | reset
  | add (modifier : Modifier)
  | remove (modifiers : List Modifier)
  | foreground (color : Color)
  | background (color : Color)
  | nothing
deriving DecidableEq, Inhabited

def Effect.apply (style : Style) : Effect → Style
  | reset => .reset
  | add modifier => style.adding modifier
  | remove modifiers => modifiers.foldl Style.removing style
  | foreground color => style.withForeground color
  | background color => style.withBackground color
  | nothing => style

def palette : List Color :=
  [.black, .red, .green, .yellow, .blue, .magenta, .cyan, .gray,
    .darkGray, .lightRed, .lightGreen, .lightYellow, .lightBlue, .lightMagenta, .lightCyan, .white]

def paletteColor (n : Nat) : Color := palette[n]?.getD .reset

def effectOf (code : Nat) : Effect :=
  match code with
  | 0 => .reset
  | 1 => .add .bold
  | 2 => .add .dim
  | 3 => .add .italic
  | 4 => .add .underlined
  | 5 => .add .slowBlink
  | 6 => .add .rapidBlink
  | 7 => .add .reversed
  | 8 => .add .hidden
  | 9 => .add .crossedOut
  | 22 => .remove [.bold, .dim]
  | 39 => .foreground .reset
  | 49 => .background .reset
  | _ =>
    if 30 ≤ code ∧ code ≤ 37 then .foreground (paletteColor (code - 30))
    else if 40 ≤ code ∧ code ≤ 47 then .background (paletteColor (code - 40))
    else if 90 ≤ code ∧ code ≤ 97 then .foreground (paletteColor (code - 82))
    else if 100 ≤ code ∧ code ≤ 107 then .background (paletteColor (code - 92))
    else .nothing

def parameter (cs : List Char) : Option (Effect × List Char) := do
  let (code, cs) ← byte cs
  match code with
  | 38 =>
    let (color, cs) ← color (skipSemicolon cs)
    some (.foreground color, skipSemicolon cs)
  | 48 =>
    let (color, cs) ← color (skipSemicolon cs)
    some (.background color, skipSemicolon cs)
  | code => some (effectOf code.toNat, skipSemicolon cs)

def parameters : Nat → List Char → List Effect × List Char
  | 0, cs => ([], cs)
  | fuel + 1, cs =>
    match parameter cs with
    | none => ([], cs)
    | some (effect, rest) =>
      let (effects, rest) := parameters fuel rest
      (effect :: effects, rest)

/-- The effects of a colouring sequence; one without parameters resets. -/
def coloring (cs : List Char) : Option (List Effect × List Char) :=
  match cs with
  | '\x1b' :: '[' :: rest =>
    match parameters rest.length rest with
    | (effects, 'm' :: rest) => some (if effects.isEmpty then [.reset] else effects, rest)
    | _ => none
  | _ => none

def skipSequence : List Char → List Char
  | '[' :: rest => (rest.dropWhile (!·.isAlpha)).drop 1
  | ']' :: rest => (rest.dropWhile (· ≠ '\x07')).drop 1
  | cs => cs

def opening (style : Style) (cs : List Char) : Style × List Char :=
  match coloring cs with
  | some (effects, rest) => (style.andThen (effects.foldl Effect.apply style), rest)
  | none =>
    match cs with
    | '\x1b' :: rest => (style, skipSequence rest)
    | cs => (style, cs)

def spans : Nat → Style → List Char → Line × Style
  | 0, style, _ => ([], style)
  | fuel + 1, style, cs =>
    let (style, cs) := opening style cs
    let text := cs.takeWhile (· ≠ escape)
    let piece : Line := if text.isEmpty then [] else [⟨String.ofList text, style⟩]
    match cs.dropWhile (· ≠ escape) with
    | [] => (piece, style)
    | rest =>
      let (line, style) := spans fuel style rest
      (piece ++ line, style)

def linesFrom (style : Style) : List (List Char) → List Line
  | [] => []
  | cs :: rest =>
    let (line, style) := spans (cs.length + 1) style cs
    line :: linesFrom style rest

/-- The lines of a text up to the first with a carriage return in it. One at the end of a line that is
followed by a line feed belongs to the line's end. -/
def plainLines (cs : List Char) : List (List Char) :=
  let parts := Text.pieces '\n' cs
  let ended := parts.dropLast.map Text.dropReturn
  let rest := parts.getLast?.toList
  let all := ended ++ if ended.isEmpty then rest else rest.filter (!·.isEmpty)
  all.takeWhile (!·.contains '\r')

def lines (text : String) : List Line := linesFrom .plain (plainLines text.toList)

end Deckhand.Screen.Ansi
