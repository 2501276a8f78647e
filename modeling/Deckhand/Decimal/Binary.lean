namespace Deckhand.Decimal

/-- The magnitude `significand * 2 ^ exponent`. -/
structure Binary where
  significand : Nat
  exponent : Int
deriving DecidableEq

namespace Binary

def ofFloat (x : Float) : Binary :=
  let bits := x.toBits.toNat
  let fraction : Nat := bits % Nat.pow 2 52
  let biased : Nat := bits / Nat.pow 2 52 % Nat.pow 2 11
  if biased = 0 then ⟨fraction, -1074⟩ else ⟨Nat.pow 2 52 + fraction, (biased : Int) - 1075⟩

def quotient (b : Binary) : Nat × Nat :=
  if b.exponent ≥ 0 then (b.significand * Nat.pow 2 b.exponent.toNat, 1)
  else (b.significand, Nat.pow 2 (-b.exponent).toNat)

/-- Whether the spacing of doubles is half as wide just below the magnitude as above it. -/
def isNarrowBelow (b : Binary) : Bool := b.significand = Nat.pow 2 52 && b.exponent > -1074

end Binary

def isNegative (x : Float) : Bool := x.toBits.toNat / Nat.pow 2 63 = 1

/-- The nearest integer to `numerator / denominator`; a half goes to the even neighbour. -/
def roundToEven (numerator denominator : Nat) : Nat :=
  let whole := numerator / denominator
  let double := 2 * (numerator % denominator)
  if double > denominator then whole + 1
  else if double = denominator then whole + whole % 2
  else whole

def fixed (places : Nat) (b : Binary) : String :=
  let (numerator, denominator) := b.quotient
  let scaled := roundToEven (numerator * Nat.pow 10 places) denominator
  let digits := toString (scaled % Nat.pow 10 places)
  toString (scaled / Nat.pow 10 places) ++ "." ++ "".pushn '0' (places - digits.length) ++ digits

end Deckhand.Decimal
