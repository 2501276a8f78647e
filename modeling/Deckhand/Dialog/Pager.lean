import Deckhand.Text.Lines

namespace Deckhand

structure Pager where
  title : String
  text : String
  scroll : Nat
deriving DecidableEq, Inhabited

namespace Pager

def new (title text : String) : Pager := ⟨title, text, 0⟩

/-- How far the text scrolls: to its last line, counted in 16 bits. -/
def limit (pager : Pager) : Nat := (Text.lineCount pager.text - 1) % Nat.pow 2 16

/-- Whether the number of the next line takes more than 16 bits. A build that checks for overflow
stops there, and any other counts on from zero. -/
def overflows (pager : Pager) : Bool := Nat.pow 2 16 ≤ pager.scroll + 1

def down (pager : Pager) : Pager :=
  { pager with scroll := min ((pager.scroll + 1) % Nat.pow 2 16) pager.limit }

def up (pager : Pager) : Pager := { pager with scroll := pager.scroll - 1 }

end Pager

end Deckhand
