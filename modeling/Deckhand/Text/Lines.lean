namespace Deckhand.Text

/-- The pieces of a text between the characters equal to `separator`; there is at least one. -/
def pieces (separator : Char) (cs : List Char) : List (List Char) :=
  cs.foldr
    (fun c rest =>
      if c = separator then [] :: rest
      else match rest with
        | [] => [[c]]
        | piece :: rest => (c :: piece) :: rest)
    [[]]

def dropReturn (line : List Char) : List Char :=
  if line.getLast? = some '\r' then line.dropLast else line

/-- The lines of a text. A line feed, or a carriage return and a line feed, ends a line, and what
follows the last of them is a line only if it is not empty. -/
def lineChars (cs : List Char) : List (List Char) :=
  let parts := pieces '\n' cs
  parts.dropLast.map dropReturn ++ (parts.getLast?.filter (!·.isEmpty)).toList

def lines (text : String) : List String := (lineChars text.toList).map String.ofList

def lineCount (text : String) : Nat := (lineChars text.toList).length

def splitOn (separator : Char) (text : String) : List String :=
  (pieces separator text.toList).map String.ofList

def unlines (texts : List String) : String := "\n".intercalate texts

def take (count : Nat) (text : String) : String := String.ofList (text.toList.take count)

def splitFirst? (separator : Char) (text : String) : Option (String × String) :=
  let cs := text.toList
  match cs.dropWhile (· != separator) with
  | [] => none
  | _ :: rest => some (String.ofList (cs.takeWhile (· != separator)), String.ofList rest)

def splitLast? (separator : Char) (text : String) : Option (String × String) :=
  let cs := text.toList.reverse
  match cs.dropWhile (· != separator) with
  | [] => none
  | _ :: rest =>
    some (String.ofList rest.reverse, String.ofList (cs.takeWhile (· != separator)).reverse)

end Deckhand.Text
