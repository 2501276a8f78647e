namespace Deckhand

/-- Drops terminal reports that arrive as typed characters. Such a sequence starts with an escape
and ends with a letter or a tilde, or else after ten more characters. -/
structure EscapeFilter where
  /-- As many characters of the last sequence have been dropped. -/
  length : UInt8
  active : Bool
deriving DecidableEq, Inhabited

namespace EscapeFilter

def new : EscapeFilter := ⟨0, false⟩

def escape : Char := '\x1b'

def endsSequence (c : Char) : Bool := c.isAlpha || c = '~'

def step (filter : EscapeFilter) (c : Char) : Bool × EscapeFilter :=
  if c = escape then (true, ⟨1, true⟩)
  else if filter.active then
    let length := filter.length + 1
    (true, ⟨length, !(endsSequence c || 10 < length)⟩)
  else (false, filter)

def marks (filter : EscapeFilter) : List Char → List Bool
  | [] => []
  | c :: rest =>
    let (dropped, filter) := filter.step c
    dropped :: filter.marks rest

def passed (filter : EscapeFilter) : List Char → List Char
  | [] => []
  | c :: rest =>
    let (dropped, filter) := filter.step c
    if dropped then filter.passed rest else c :: filter.passed rest

theorem marks_cons (filter : EscapeFilter) (c : Char) (cs : List Char) :
    filter.marks (c :: cs) = (filter.step c).1 :: (filter.step c).2.marks cs := rfl

theorem passed_cons (filter : EscapeFilter) (c : Char) (cs : List Char) :
    filter.passed (c :: cs) =
      if (filter.step c).1 then (filter.step c).2.passed cs
      else c :: (filter.step c).2.passed cs := rfl

end EscapeFilter

end Deckhand
