import Deckhand.Decimal.Binary

namespace Deckhand.Decimal

/-- The value `digits * 10 ^ exponent`. -/
structure Scaled where
  digits : Nat
  exponent : Int
deriving DecidableEq

/-- The bounds between which a decimal reads back as the magnitude, over the unit
`2 ^ (exponent - 2)`, and whether the bounds themselves do. -/
def readBack (b : Binary) : Nat × Nat × Bool :=
  let middle := 4 * b.significand
  (middle - (if b.isNarrowBelow then 1 else 2), middle + 2, b.significand % 2 = 0)

/-- The two multiples of `10 ^ place` around the magnitude, the nearer one first, as far as they
read back. -/
def candidates (b : Binary) (place : Int) : List Nat :=
  let (low, high, closed) := readBack b
  let unit := b.exponent - 2
  -- `x * 2 ^ unit` against `n * 10 ^ place`, with both sides brought to whole numbers
  let binaryUp := if unit ≥ 0 then Nat.pow 2 unit.toNat else 1
  let binaryDown := if unit ≥ 0 then 1 else Nat.pow 2 (-unit).toNat
  let decimalUp := if place ≥ 0 then Nat.pow 10 place.toNat else 1
  let decimalDown := if place ≥ 0 then 1 else Nat.pow 10 (-place).toNat
  let left (x : Nat) := x * binaryUp * decimalDown
  let right (n : Nat) := n * decimalUp * binaryDown
  let target := left (4 * b.significand)
  let floor := target / right 1
  let inside (n : Nat) :=
    if closed then left low ≤ right n && right n ≤ left high
    else left low < right n && right n < left high
  let below := target - right floor
  let above := right (floor + 1) - target
  let ordered :=
    if below < above || (below = above && floor % 2 = 0) then [floor, floor + 1]
    else [floor + 1, floor]
  ordered.filter inside

def leadingPlace (b : Binary) : Int :=
  let (numerator, denominator) := b.quotient
  if numerator ≥ denominator then ((toString (numerator / denominator)).length : Int) - 1
  else -((toString (denominator / numerator)).length : Int)

def searchShortest (b : Binary) (place : Int) : Nat → Option Scaled
  | 0 => none
  | fuel + 1 =>
    match candidates b place with
    | n :: _ => some ⟨n, place⟩
    | [] => searchShortest b (place - 1) fuel

def dropZeros (s : Scaled) : Nat → Scaled
  | 0 => s
  | fuel + 1 =>
    if s.digits ≠ 0 && s.digits % 10 = 0 then dropZeros ⟨s.digits / 10, s.exponent + 1⟩ fuel else s

/-- The decimal with the fewest digits that reads back, and among those the nearest. Seventeen
digits always suffice. -/
def shortest (b : Binary) : Scaled :=
  if b.significand = 0 then ⟨0, 0⟩
  else
    match searchShortest b (leadingPlace b + 1) 20 with
    | some s => dropZeros s 20
    | none => ⟨0, 0⟩

/-- Positional from 0.00001 up to, but not including, 10^16, always with a decimal point, and in
scientific notation with a signed exponent otherwise. -/
def floatText (x : Float) : String :=
  let sign := if isNegative x then "-" else ""
  let b := Binary.ofFloat x
  if b.significand = 0 then sign ++ "0.0"
  else
    let s := shortest b
    let digits := toString s.digits
    let count : Int := digits.length
    let point := count + s.exponent
    let body :=
      if s.exponent ≥ 0 && point ≤ 16 then digits ++ "".pushn '0' s.exponent.toNat ++ ".0"
      else if 0 < point && point ≤ 16 then
        String.ofList (digits.toList.take point.toNat) ++ "." ++
          String.ofList (digits.toList.drop point.toNat)
      else if -5 < point && point ≤ 0 then "0." ++ "".pushn '0' (-point).toNat ++ digits
      else
        let exponent := point - 1
        let mantissa :=
          match digits.toList with
          | [] => ""
          | [d] => d.toString
          | d :: rest => d.toString ++ "." ++ String.ofList rest
        mantissa ++ "e" ++ (if exponent < 0 then "-" else "+") ++ toString exponent.natAbs
    sign ++ body

end Deckhand.Decimal
