import Deckhand.Json.Basic

namespace Deckhand.Json

/-- The structure of a text. It is read first and on its own, because a part that nobody asks for
has to be well-formed, but its strings and numbers need not have a value. A string is `whole` if
each of its surrogate escapes belongs to a pair. -/
inductive Raw where
  | null
  | bool (b : Bool)
  | number (n : Numeral)
  | string (text : String) (whole : Bool)
  | array (items : List Raw)
  | object (members : List (Raw × Raw))
deriving Inhabited

namespace Raw

def skipSpace (cs : List Char) : List Char :=
  cs.dropWhile fun c => c = ' ' || c = '\t' || c = '\n' || c = '\r'

def digitRun (cs : List Char) : List Nat × List Char :=
  ((cs.takeWhile Char.isDigit).map (·.toNat - '0'.toNat), cs.dropWhile Char.isDigit)

def someDigits? (cs : List Char) : Option (List Nat × List Char) :=
  let (digits, rest) := digitRun cs
  if digits.isEmpty then none else some (digits, rest)

def readFraction (cs : List Char) : Option (List Nat × List Char) :=
  match cs with
  | '.' :: rest => someDigits? rest
  | _ => some ([], cs)

def readExponent (cs : List Char) : Option (Option (Bool × List Nat) × List Char) :=
  match cs with
  | c :: rest =>
    if c = 'e' || c = 'E' then
      let (down, rest) : Bool × List Char :=
        match rest with
        | '-' :: rest => (true, rest)
        | '+' :: rest => (false, rest)
        | _ => (false, rest)
      (someDigits? rest).map fun (digits, rest) => (some (down, digits), rest)
    else some (none, cs)
  | [] => some (none, [])

def readNumeral (negative : Bool) (cs : List Char) : Option (Numeral × List Char) := do
  let (whole, rest) ← someDigits? cs
  if whole.head? = some 0 && whole.length > 1 then none
  else
    let (fraction, rest) ← readFraction rest
    let (exponent, rest) ← readExponent rest
    some (⟨negative, whole, fraction, exponent⟩, rest)

def hexDigit? (c : Char) : Option Nat :=
  if c.isDigit then some (c.toNat - '0'.toNat)
  else if 'a' ≤ c && c ≤ 'f' then some (c.toNat - 'a'.toNat + 10)
  else if 'A' ≤ c && c ≤ 'F' then some (c.toNat - 'A'.toNat + 10)
  else none

def readUnit : List Char → Option (Nat × List Char)
  | a :: b :: c :: d :: rest => do
    let a ← hexDigit? a
    let b ← hexDigit? b
    let c ← hexDigit? c
    let d ← hexDigit? d
    some (((a * 16 + b) * 16 + c) * 16 + d, rest)
  | _ => none

def simpleEscape? : Char → Option Char
  | '"' => some '"'
  | '\\' => some '\\'
  | '/' => some '/'
  | 'b' => some '\x08'
  | 'f' => some '\x0c'
  | 'n' => some '\n'
  | 'r' => some '\r'
  | 't' => some '\t'
  | _ => none

/-- The escape after `\u`. A high surrogate takes the low one after it; `none` as the character
marks a surrogate without its partner. -/
def readScalar (cs : List Char) : Option (Option Char × List Char) := do
  let (high, rest) ← readUnit cs
  if 0xd800 ≤ high && high ≤ 0xdbff then
    match rest with
    | '\\' :: 'u' :: after =>
      let (low, after) ← readUnit after
      if 0xdc00 ≤ low && low ≤ 0xdfff then
        some (some (Char.ofNat (0x10000 + (high - 0xd800) * 0x400 + (low - 0xdc00))), after)
      else some (none, rest)
    | _ => some (none, rest)
  else if 0xdc00 ≤ high && high ≤ 0xdfff then some (none, rest)
  else some (some (Char.ofNat high), rest)

def readString (text : List Char) (whole : Bool) :
    Nat → List Char → Option (String × Bool × List Char)
  | 0, _ => none
  | fuel + 1, cs =>
    match cs with
    | [] => none
    | '"' :: rest => some (String.ofList text.reverse, whole, rest)
    | '\\' :: 'u' :: rest =>
      match readScalar rest with
      | none => none
      | some (some c, rest) => readString (c :: text) whole fuel rest
      | some (none, rest) => readString text false fuel rest
    | '\\' :: c :: rest =>
      match simpleEscape? c with
      | some c => readString (c :: text) whole fuel rest
      | none => none
    | c :: rest => if c.toNat < 0x20 || c = '\\' then none else readString (c :: text) whole fuel rest

def readWord (word : List Char) (value : Raw) (cs : List Char) : Option (Raw × List Char) :=
  if word.isPrefixOf cs then some (value, cs.drop word.length) else none

mutual

def readValue : Nat → List Char → Option (Raw × List Char)
  | 0, _ => none
  | fuel + 1, cs =>
    match skipSpace cs with
    | [] => none
    | '"' :: rest =>
      (readString [] true rest.length rest).map fun (text, whole, rest) => (string text whole, rest)
    | '[' :: rest =>
      match skipSpace rest with
      | ']' :: rest => some (array [], rest)
      | rest => (readItems fuel rest).map fun (items, rest) => (array items, rest)
    | '\x7b' :: rest =>
      match skipSpace rest with
      | '\x7d' :: rest => some (object [], rest)
      | rest => (readMembers fuel rest).map fun (members, rest) => (object members, rest)
    | '-' :: rest => (readNumeral true rest).map fun (n, rest) => (number n, rest)
    | 'n' :: rest => readWord "ull".toList null rest
    | 't' :: rest => readWord "rue".toList (bool true) rest
    | 'f' :: rest => readWord "alse".toList (bool false) rest
    | rest => (readNumeral false rest).map fun (n, rest) => (number n, rest)

def readItems : Nat → List Char → Option (List Raw × List Char)
  | 0, _ => none
  | fuel + 1, cs =>
    match readValue fuel cs with
    | none => none
    | some (item, rest) =>
      match skipSpace rest with
      | ']' :: rest => some ([item], rest)
      | ',' :: rest => (readItems fuel rest).map fun (items, rest) => (item :: items, rest)
      | _ => none

def readMembers : Nat → List Char → Option (List (Raw × Raw) × List Char)
  | 0, _ => none
  | fuel + 1, cs =>
    match skipSpace cs with
    | '"' :: rest =>
      match readString [] true rest.length rest with
      | none => none
      | some (key, whole, rest) =>
        match skipSpace rest with
        | ':' :: rest =>
          match readValue fuel rest with
          | none => none
          | some (value, rest) =>
            match skipSpace rest with
            | '\x7d' :: rest => some ([(string key whole, value)], rest)
            | ',' :: rest =>
              (readMembers fuel rest).map fun (members, rest) =>
                ((string key whole, value) :: members, rest)
            | _ => none
        | _ => none
    | _ => none

end

/-- The structure of a whole text. Every step of the reader takes a character or ends. -/
def parse? (text : String) : Option Raw :=
  let cs := text.toList
  match readValue (2 * cs.length + 2) cs with
  | some (value, rest) => if (skipSpace rest).isEmpty then some value else none
  | none => none

mutual

/-- The value of a structure whose strings are whole, whose numbers are in range and whose nesting
is below `depth`. -/
def value? (depth : Nat) : Raw → Option Json
  | null => some .null
  | bool b => some (.bool b)
  | number n => n.value?.map .number
  | string text whole => if whole then some (.string text) else none
  | array items =>
    if depth ≤ 1 then none else (values? (depth - 1) items).map .array
  | object members =>
    if depth ≤ 1 then none else (memberValues? (depth - 1) members).map .object

def values? (depth : Nat) : List Raw → Option (List Json)
  | [] => some []
  | item :: items => do
    let item ← value? depth item
    let items ← values? depth items
    some (item :: items)

def memberValues? (depth : Nat) : List (Raw × Raw) → Option (List (String × Json))
  | [] => some []
  | (key, value) :: members => do
    let .string key ← value? depth key | none
    let value ← value? depth value
    let members ← memberValues? depth members
    some ((key, value) :: members)

end

end Raw

def nestingLimit : Nat := 128

def parse? (text : String) : Option Json := (Raw.parse? text).bind (Raw.value? nestingLimit)

end Deckhand.Json
