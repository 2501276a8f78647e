namespace Deckhand.Text

/-- Between characters, or inside one: how many bytes are owed, the bounds of the next one, and
the value so far. -/
inductive Utf8State where
  | start
  | inside (owed : Nat) (low high : UInt8) (value : Nat)

def Utf8State.first (b : UInt8) : Option (Utf8State × Option Char) :=
  let n := b.toNat
  if n < 0x80 then some (.start, some (Char.ofNat n))
  else if n < 0xc2 then none
  else if n < 0xe0 then some (.inside 1 0x80 0xbf (n - 0xc0), none)
  else if n < 0xf0 then
    some (.inside 2 (if n = 0xe0 then 0xa0 else 0x80) (if n = 0xed then 0x9f else 0xbf) (n - 0xe0), none)
  else if n < 0xf5 then
    some (.inside 3 (if n = 0xf0 then 0x90 else 0x80) (if n = 0xf4 then 0x8f else 0xbf) (n - 0xf0), none)
  else none

def Utf8State.begin (b : UInt8) : Utf8State × List (Option Char) :=
  match Utf8State.first b with
  | none => (.start, [none])
  | some (state, given) => (state, (given.map some).toList)

/-- A byte that cannot go on with a character ends it as malformed and is read anew. -/
def Utf8State.step : Utf8State → UInt8 → Utf8State × List (Option Char)
  | .start, b => Utf8State.begin b
  | .inside owed low high value, b =>
    if low ≤ b && b ≤ high then
      let value := value * 64 + (b.toNat - 0x80)
      if owed ≤ 1 then (.start, [some (Char.ofNat value)])
      else (.inside (owed - 1) 0x80 0xbf value, [])
    else
      let (state, given) := Utf8State.begin b
      (state, none :: given)

/-- The characters of a byte sequence; `none` stands for each longest malformed part. -/
def decodeMarked (bytes : List UInt8) : List (Option Char) :=
  let (state, given) := bytes.foldl
    (fun (state, given) b =>
      let (state, more) := state.step b
      (state, more.reverse ++ given))
    (Utf8State.start, [])
  match state with
  | .start => given.reverse
  | .inside .. => (none :: given).reverse

def decodeLossy (bytes : ByteArray) : String :=
  String.ofList ((decodeMarked bytes.toList).map (·.getD '\ufffd'))

def decode? (bytes : ByteArray) : Option String :=
  ((decodeMarked bytes.toList).mapM id).map String.ofList

end Deckhand.Text
