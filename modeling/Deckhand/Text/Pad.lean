import Deckhand.Text.Lines

namespace Deckhand.Text

def padEnd (count : Nat) (text : String) : String :=
  text ++ String.ofList (List.replicate (count - text.length) ' ')

def padStart (count : Nat) (text : String) : String :=
  String.ofList (List.replicate (count - text.length) ' ') ++ text

/-- The number of bytes of the longest text. -/
def longest (texts : List String) : Nat := (texts.map String.utf8ByteSize).foldl max 0

/-- A text that is too long keeps its start, with a tilde at the end if there is room for it. -/
def shorten (limit : Nat) (text : String) : String :=
  if text.length ≤ limit then text
  else if limit ≤ 3 then take limit text
  else take (limit - 1) text ++ "~"

end Deckhand.Text
