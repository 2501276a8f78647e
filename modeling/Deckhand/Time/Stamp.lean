import Deckhand.Time.Calendar

namespace Deckhand.Time

abbrev Scan (α : Type) := List Char → Option (α × List Char)

def digit? (c : Char) : Option Nat :=
  if c.isDigit then some (c.toNat - '0'.toNat) else none

def digits : Nat → Scan Nat
  | 0, cs => some (0, cs)
  | _ + 1, [] => none
  | count + 1, c :: cs => do
    let d ← digit? c
    let (n, rest) ← digits count cs
    pure (d * Nat.pow 10 count + n, rest)

def expect (wanted : Char) (cs : List Char) : Option (List Char) :=
  match cs with
  | c :: rest => if c = wanted then some rest else none
  | [] => none

def bounded (count low high : Nat) : Scan Nat := fun cs => do
  let (n, rest) ← digits count cs
  if low ≤ n && n ≤ high then some (n, rest) else none

def skipFraction (cs : List Char) : Option (List Char) :=
  match cs with
  | '.' :: rest =>
    match rest with
    | c :: _ => if c.isDigit then some (rest.dropWhile Char.isDigit) else none
    | [] => none
  | _ => some cs

/-- The minutes by which local time is ahead. Both the hyphen and the minus sign are accepted. -/
def offset : Scan Int := fun cs =>
  match cs with
  | [] => none
  | c :: rest =>
    if c = 'Z' || c = 'z' then some (0, rest)
    else if c = '+' || c = '-' || c = '−' then do
      let (hours, rest) ← bounded 2 0 23 rest
      let rest ← expect ':' rest
      let (minutes, rest) ← bounded 2 0 59 rest
      let ahead : Int := (hours * 60 + minutes : Nat)
      pure (if c = '+' then ahead else -ahead, rest)
    else none

/-- The minutes after 1970 of a stamp. The letters may be lowercase, a blank may stand for the `T`,
and a sixtieth second is accepted. -/
def stampMinutes? (text : String) : Option Int := do
  let (year, rest) ← digits 4 text.toList
  let rest ← expect '-' rest
  let (month, rest) ← bounded 2 1 12 rest
  let rest ← expect '-' rest
  let (day, rest) ← bounded 2 1 31 rest
  let rest ← match rest with
    | c :: rest => if c = 'T' || c = 't' || c = ' ' then some rest else none
    | [] => none
  let (hour, rest) ← bounded 2 0 23 rest
  let rest ← expect ':' rest
  let (minute, rest) ← bounded 2 0 59 rest
  let rest ← expect ':' rest
  let (_, rest) ← bounded 2 0 60 rest
  let rest ← skipFraction rest
  let (ahead, rest) ← offset rest
  let date : Date := ⟨year, month, day⟩
  if rest.isEmpty && date.isValid then
    some (date.toDays * 1440 + (hour * 60 + minute : Nat) - ahead)
  else none

def stampText? (text : String) : Option String := (stampMinutes? text).map minuteText

end Deckhand.Time
