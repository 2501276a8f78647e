import Deckhand.Operation
import Deckhand.Text.Blank

namespace Deckhand.Podman

def isBlankLine (line : String) : Bool := (Text.trim line).isEmpty

/-- Each line that is not blank is a row of trimmed cells between tabs. -/
def tabbed (headers : List String) (text : String) : Report :=
  ⟨headers, ((Text.lines text).filter (!isBlankLine ·)).map fun line =>
    (Text.splitOn '\t' line).map Text.trim⟩

/-- At most `width` cells; the last one takes all the words that are left. -/
def alignedCells (width : Nat) (words : List String) : List String :=
  if words.length ≤ width then words
  else words.take (width - 1) ++ [" ".intercalate (words.drop (width - 1))]

/-- The words of the first line that is not blank are the headers. -/
def aligned (text : String) : Report :=
  match (Text.lines text).filter (!isBlankLine ·) with
  | [] => ⟨[], []⟩
  | header :: rows =>
    let headers := Text.words header
    ⟨headers, rows.map fun row => alignedCells (max headers.length 1) (Text.words row)⟩

end Deckhand.Podman
