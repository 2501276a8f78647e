import Deckhand.Unicode.Case

namespace Deckhand.Text

open Unicode

def mapCase (runs : Array Run) (sequences : Array (Nat × List Nat)) (c : Char) : List Char :=
  let n := c.toNat
  match find? (fun entry => (entry.1, entry.1)) sequences n with
  | some entry => entry.2.map Char.ofNat
  | none =>
    match find? (fun run => (run.first, run.last)) runs n with
    | some run =>
      if (n - run.first) % run.step = 0 then [Char.ofNat (n + run.shift).toNat] else [c]
    | none => [c]

def upperChar (c : Char) : List Char := mapCase upperRuns upperSequences c

def lowerChar (c : Char) : List Char := mapCase lowerRuns lowerSequences c

def startsCased (cs : List Char) : Bool :=
  match cs.dropWhile caseIgnorable.contains with
  | [] => false
  | c :: _ => cased.contains c

/-- `before` holds the characters already passed, the nearest first. A sigma at the end of a word
becomes the final form. -/
def lowerFrom (before : List Char) : List Char → List Char
  | [] => []
  | c :: rest =>
    let mapped :=
      if c = 'Σ' then (if startsCased before && !startsCased rest then ['ς'] else ['σ'])
      else lowerChar c
    mapped ++ lowerFrom (c :: before) rest

def upper (text : String) : String := String.ofList (text.toList.flatMap upperChar)

def lower (text : String) : String := String.ofList (lowerFrom [] text.toList)

end Deckhand.Text
