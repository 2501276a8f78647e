namespace Deckhand.Time

structure Span where
  seconds : Nat
  nanoseconds : Nat
deriving DecidableEq, Inhabited

namespace Span

def ofMilliseconds (ms : Nat) : Span := ⟨ms / 1000, ms % 1000 * 1000000⟩

/-- `part` as decimals of a whole that has `places` places, without zeros at the end. -/
def decimals (part places : Nat) : String :=
  let digits := Nat.toDigits 10 part
  let padded := List.replicate (places - digits.length) '0' ++ digits
  let kept := (padded.reverse.dropWhile (· == '0')).reverse
  if kept.isEmpty then "" else "." ++ String.ofList kept

def text (span : Span) : String :=
  if span.seconds > 0 then
    toString span.seconds ++ decimals span.nanoseconds 9 ++ "s"
  else if span.nanoseconds ≥ 1000000 then
    toString (span.nanoseconds / 1000000) ++ decimals (span.nanoseconds % 1000000) 6 ++ "ms"
  else if span.nanoseconds ≥ 1000 then
    toString (span.nanoseconds / 1000) ++ decimals (span.nanoseconds % 1000) 3 ++ "µs"
  else toString span.nanoseconds ++ "ns"

end Span

end Deckhand.Time
