import Deckhand.Time.Calendar
import Deckhand.Toml.Quoted

namespace Deckhand.Toml

def one (test : Char → Bool) : Scan Char
  | c :: rest => if test c then some (c, rest) else none
  | [] => none

def mark? (mark : List Char) (cs : List Char) : Option (List Char) :=
  if mark.isPrefixOf cs then some (cs.drop mark.length) else none

def moreDigits (test : Char → Bool) : List Char → List Char × List Char
  | '_' :: c :: rest =>
    if test c then
      let (digits, rest) := moreDigits test rest
      (c :: digits, rest)
    else ([], '_' :: c :: rest)
  | c :: rest =>
    if test c then
      let (digits, rest) := moreDigits test rest
      (c :: digits, rest)
    else ([], c :: rest)
  | [] => ([], [])

def digitGroup (test : Char → Bool) : Scan (List Char)
  | c :: rest =>
    if test c then
      let (digits, rest) := moreDigits test rest
      some (c :: digits, rest)
    else none
  | [] => none

/-- A sign, if there is one; `true` is minus. -/
def sign : List Char → Bool × List Char
  | '-' :: rest => (true, rest)
  | '+' :: rest => (false, rest)
  | cs => (false, cs)

/-- Decimal digits, of which the first is a zero only if it is the only one. -/
def wholeDigits : Scan (List Char)
  | '0' :: rest => some (['0'], rest)
  | cs => digitGroup Char.isDigit cs

def valueOf (base : Nat) (digits : List Char) : Nat :=
  digits.foldl (fun n c => n * base + (hexDigit? c).getD 0) 0

def based (base : Nat) (test : Char → Bool) (cs : List Char) : Option (Int × List Char) := do
  let (digits, rest) ← digitGroup test cs
  let n := valueOf base digits
  if n < Nat.pow 2 63 then some (n, rest) else none

def integer : Scan Int
  | '0' :: 'x' :: rest => based 16 (fun c => (hexDigit? c).isSome) rest
  | '0' :: 'o' :: rest => based 8 (fun c => '0' ≤ c && c ≤ '7') rest
  | '0' :: 'b' :: rest => based 2 (fun c => c = '0' || c = '1') rest
  | cs => do
    let (negative, rest) := sign cs
    let (digits, rest) ← wholeDigits rest
    let n := valueOf 10 digits
    if negative then if n ≤ Nat.pow 2 63 then some (-n, rest) else none
    else if n < Nat.pow 2 63 then some (n, rest) else none

def fraction : Scan (List Char)
  | '.' :: rest => digitGroup Char.isDigit rest
  | _ => none

def exponent : Scan (Bool × List Char)
  | c :: rest =>
    if c = 'e' || c = 'E' then do
      let (negative, rest) := sign rest
      let (digits, rest) ← digitGroup Char.isDigit rest
      some ((negative, digits), rest)
    else none
  | [] => none

def isTooLarge (digits : Nat) (exponent : Int) : Bool :=
  if digits = 0 then false
  else
    let size : Int := (toString digits).length
    if size + exponent > 400 then true
    else if size + exponent < 300 then false
    else if exponent ≥ 0 then Nat.pow 2 1024 - Nat.pow 2 970 ≤ digits * Nat.pow 10 exponent.toNat
    else (Nat.pow 2 1024 - Nat.pow 2 970) * Nat.pow 10 (-exponent).toNat ≤ digits

/-- A number with a fraction or an exponent. Positive ones must not be too large. -/
def decimal (cs : List Char) : Option (List Char) := do
  let (negative, rest) := sign cs
  let (whole, rest) ← wholeDigits rest
  let (digits, rest, marked) :=
    match fraction rest with
    | some (digits, rest) => (digits, rest, true)
    | none => ([], rest, false)
  let ((down, power), rest, marked) :=
    match exponent rest with
    | some (e, rest) => (e, rest, true)
    | none => ((false, []), rest, marked)
  let power : Int := valueOf 10 power
  let shift := (if down then -power else power) - digits.length
  if marked && (negative || !isTooLarge (valueOf 10 (whole ++ digits)) shift) then some rest
  else none

def special (cs : List Char) : Option (List Char) :=
  let rest := (sign cs).2
  mark? "inf".toList rest <|> mark? "nan".toList rest

def twoDigits (low high : Nat) : Scan Nat
  | a :: b :: rest =>
    let n := valueOf 10 [a, b]
    if a.isDigit && b.isDigit && low ≤ n && n ≤ high then some (n, rest) else none
  | _ => none

def secondFraction (cs : List Char) : List Char :=
  match cs with
  | '.' :: c :: rest => if c.isDigit then rest.dropWhile Char.isDigit else cs
  | cs => cs

def timeOfDay (cs : List Char) : Option (List Char) := do
  let (_, rest) ← twoDigits 0 23 cs
  let rest ← mark? [':'] rest
  let (_, rest) ← twoDigits 0 59 rest
  let rest ← mark? [':'] rest
  let (_, rest) ← twoDigits 0 60 rest
  some (secondFraction rest)

def zone (cs : List Char) : Option (List Char) :=
  match cs with
  | c :: rest =>
    if c = 'Z' || c = 'z' then some rest
    else if c = '+' || c = '-' then do
      let (_, rest) ← twoDigits 0 23 rest
      let rest ← mark? [':'] rest
      let (_, rest) ← twoDigits 0 59 rest
      some rest
    else none
  | [] => none

def date (cs : List Char) : Option (List Char) := do
  let (century, rest) ← twoDigits 0 99 cs
  let (year, rest) ← twoDigits 0 99 rest
  let rest ← mark? ['-'] rest
  let (month, rest) ← twoDigits 1 12 rest
  let rest ← mark? ['-'] rest
  let (day, rest) ← twoDigits 1 31 rest
  let date : Time.Date := ⟨century * 100 + year, month, day⟩
  if date.isValid then some rest else none

def dateTime (cs : List Char) : Option (List Char) :=
  match date cs with
  | some rest =>
    match rest with
    | c :: after =>
      if c = 'T' || c = 't' || c = ' ' then
        match timeOfDay after with
        | some after => some ((zone after).getD after)
        | none => some rest
      else some rest
    | [] => some rest
  | none => timeOfDay cs

end Deckhand.Toml
