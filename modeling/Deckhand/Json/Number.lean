import Deckhand.Decimal.Shortest

namespace Deckhand.Json

/-- A number as written. `exponent` holds the digits after the letter and whether a minus sign is
before them. -/
structure Numeral where
  negative : Bool
  whole : List Nat
  fraction : List Nat
  exponent : Option (Bool × List Nat)
deriving DecidableEq

/-- A number as kept: exact if it is an integer of 64 bits, else in double precision. -/
inductive Number where
  | natural (n : Nat)
  | negative (n : Nat)
  | float (x : Float)

namespace Number

def text : Number → String
  | natural n => toString n
  | negative n => "-" ++ toString n
  | float x => Decimal.floatText x

def signed? : Number → Option Int
  | natural n => if n < Nat.pow 2 63 then some n else none
  | negative n => some (-n)
  | float _ => none

def unsigned? : Number → Option Nat
  | natural n => some n
  | negative _ | float _ => none

end Number

namespace Numeral

def powerOfTen (n : Nat) : Float := Float.ofScientific 1 false n

/-- Digits read into a number below 2^64, and how many digits no longer fit. -/
def significant : Nat → List Nat → Nat × Nat
  | value, [] => (value, 0)
  | value, d :: rest =>
    let next := value * 10 + d
    if next < Nat.pow 2 64 then significant next rest else (value, rest.length + 1)

def divideByPower (x : Float) (power : Nat) : Nat → Float
  | 0 => x
  | fuel + 1 =>
    if power ≤ 308 then x / powerOfTen power
    else if x == 0 then x
    else divideByPower (x / powerOfTen 308) (power - 308) fuel

/-- `value * 10 ^ exponent`, by one multiplication or by divisions; `none` above the largest
double. -/
def scale (value : Nat) (exponent : Int) : Option Float :=
  let x := value.toUInt64.toFloat
  if exponent < 0 then some (divideByPower x exponent.natAbs (exponent.natAbs / 308 + 1))
  else if exponent ≤ 308 then
    let y := x * powerOfTen exponent.toNat
    if y.isInf then none else some y
  else if value = 0 then some x
  else none

def exponentLimit : Nat := Nat.pow 2 31 - 1

/-- The magnitude of a number that has a fraction, an exponent or too many digits. Digits that do
not fit into 64 bits are not looked at. -/
def magnitude? (n : Numeral) : Option Float :=
  let (value, dropped) := significant 0 n.whole
  let (value, used) :=
    if dropped > 0 then (value, 0)
    else
      let (value, beyond) := significant value n.fraction
      (value, n.fraction.length - beyond)
  let (value, shift) : Nat × Int :=
    if dropped > 0 then
      let (value, beyond) := significant value n.fraction
      (value, (dropped : Int) - (n.fraction.length - beyond : Nat))
    else (value, -(used : Int))
  match n.exponent with
  | none => scale value shift
  | some (down, digits) =>
    let exponent := digits.foldl (fun e d => min (e * 10 + d) (exponentLimit + 1)) 0
    if exponent > exponentLimit then
      if value ≠ 0 && !down then none else some 0
    else scale value (if down then shift - exponent else shift + exponent)

/-- The value of a number, `none` if it is above the largest double. Minus zero is kept in double
precision. -/
def value? (n : Numeral) : Option Number :=
  let exact : Nat := n.whole.foldl (fun v d => v * 10 + d) 0
  let isInteger := n.fraction.isEmpty && n.exponent.isNone
  if isInteger && !n.negative && exact < Nat.pow 2 64 then some (.natural exact)
  else if isInteger && n.negative && 0 < exact && exact ≤ Nat.pow 2 63 then some (.negative exact)
  else n.magnitude?.map fun x => .float (if n.negative then -x else x)

end Numeral

end Deckhand.Json
