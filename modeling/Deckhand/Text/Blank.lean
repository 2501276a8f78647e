namespace Deckhand.Text

/-- The characters with the property White_Space. -/
def isBlank (c : Char) : Bool :=
  let n := c.toNat
  (0x9 ≤ n && n ≤ 0xd) || n == 0x20 || n == 0x85 || n == 0xa0 || n == 0x1680 ||
    (0x2000 ≤ n && n ≤ 0x200a) || n == 0x2028 || n == 0x2029 || n == 0x202f || n == 0x205f ||
    n == 0x3000

def trimChars (cs : List Char) : List Char :=
  ((cs.dropWhile isBlank).reverse.dropWhile isBlank).reverse

/-- The word that the text starts with, which may be empty, and the words after it. -/
def splitWords (cs : List Char) : List Char × List (List Char) :=
  cs.foldr
    (fun c (word, words) =>
      if isBlank c then ([], if word.isEmpty then words else word :: words) else (c :: word, words))
    ([], [])

def wordChars (cs : List Char) : List (List Char) :=
  match splitWords cs with
  | ([], words) => words
  | (word, words) => word :: words

def trim (text : String) : String := String.ofList (trimChars text.toList)

def words (text : String) : List String := (wordChars text.toList).map String.ofList

end Deckhand.Text
