namespace Deckhand.Toml

/-- What a scanner reads from the front of a text, and the rest of the text. For the body of a
string that is what stands between the quotes, and what follows the closing ones. -/
abbrev Scan (α : Type) := List Char → Option (α × List Char)

def isBlank (c : Char) : Bool := c = ' ' || c = '\t'

def isForbidden (c : Char) : Bool := (c.toNat < 0x20 && c != '\t') || c.toNat = 0x7f

def push (c : Option Char) (read : Option (List Char × List Char)) :
    Option (List Char × List Char) :=
  match c, read with
  | some c, some (text, rest) => some (c :: text, rest)
  | _, _ => none

def hexDigit? (c : Char) : Option Nat :=
  if c.isDigit then some (c.toNat - '0'.toNat)
  else if 'a' ≤ c && c ≤ 'f' then some (c.toNat - 'a'.toNat + 10)
  else if 'A' ≤ c && c ≤ 'F' then some (c.toNat - 'A'.toNat + 10)
  else none

def scalar? (digits : List Char) : Option Char := do
  let n ← digits.foldlM (fun n c => (hexDigit? c).map (n * 16 + ·)) 0
  if n < 0xd800 || (0xdfff < n && n < 0x110000) then some (Char.ofNat n) else none

def escape? : Char → Option Char
  | 'b' => some '\x08'
  | 't' => some '\t'
  | 'n' => some '\n'
  | 'f' => some '\x0c'
  | 'r' => some '\r'
  | '"' => some '"'
  | '\\' => some '\\'
  | _ => none

def basicBody : Scan (List Char)
  | [] => none
  | '"' :: rest => some ([], rest)
  | '\\' :: 'u' :: a :: b :: c :: d :: rest => push (scalar? [a, b, c, d]) (basicBody rest)
  | '\\' :: 'U' :: a :: b :: c :: d :: e :: f :: g :: h :: rest =>
    push (scalar? [a, b, c, d, e, f, g, h]) (basicBody rest)
  | '\\' :: c :: rest => push (escape? c) (basicBody rest)
  | c :: rest => if isForbidden c || c = '\\' then none else push (some c) (basicBody rest)

def literalBody : Scan (List Char)
  | [] => none
  | '\'' :: rest => some ([], rest)
  | c :: rest => if isForbidden c then none else push (some c) (literalBody rest)

def endsLine (cs : List Char) : Bool :=
  match cs.dropWhile isBlank with
  | '\n' :: _ | '\r' :: '\n' :: _ => true
  | _ => false

/-- The body of a string between triple double quotes. Up to two quotes may stand before the closing
ones. A backslash at the end of a line takes away the line break and all blanks and line breaks after
it; `trimming` says that such a break was just read. -/
def multiLineBasicBody (trimming : Bool) : Scan (List Char)
  | [] => none
  | '\r' :: '\n' :: rest =>
    if trimming then multiLineBasicBody true rest
    else push (some '\n') (multiLineBasicBody false rest)
  | '\n' :: rest =>
    if trimming then multiLineBasicBody true rest
    else push (some '\n') (multiLineBasicBody false rest)
  | '"' :: '"' :: '"' :: '"' :: '"' :: rest => some (['"', '"'], rest)
  | '"' :: '"' :: '"' :: '"' :: rest => some (['"'], rest)
  | '"' :: '"' :: '"' :: rest => some ([], rest)
  | '\\' :: 'u' :: a :: b :: c :: d :: rest =>
    push (scalar? [a, b, c, d]) (multiLineBasicBody false rest)
  | '\\' :: 'U' :: a :: b :: c :: d :: e :: f :: g :: h :: rest =>
    push (scalar? [a, b, c, d, e, f, g, h]) (multiLineBasicBody false rest)
  | '\\' :: c :: rest =>
    if endsLine (c :: rest) then
      multiLineBasicBody true (c :: rest)
    else push (escape? c) (multiLineBasicBody false rest)
  | c :: rest =>
    if trimming && isBlank c then multiLineBasicBody true rest
    else if isForbidden c || c = '\\' then none
    else push (some c) (multiLineBasicBody false rest)

def multiLineLiteralBody : Scan (List Char)
  | [] => none
  | '\r' :: '\n' :: rest => push (some '\n') (multiLineLiteralBody rest)
  | '\n' :: rest => push (some '\n') (multiLineLiteralBody rest)
  | '\'' :: '\'' :: '\'' :: '\'' :: '\'' :: rest => some (['\'', '\''], rest)
  | '\'' :: '\'' :: '\'' :: '\'' :: rest => some (['\''], rest)
  | '\'' :: '\'' :: '\'' :: rest => some ([], rest)
  | c :: rest => if isForbidden c then none else push (some c) (multiLineLiteralBody rest)

/-- A line break right after triple quotes is no part of the string. -/
def dropLineBreak : List Char → List Char
  | '\n' :: rest => rest
  | '\r' :: '\n' :: rest => rest
  | cs => cs

def quoted : Scan (List Char)
  | '"' :: '"' :: '"' :: rest => multiLineBasicBody false (dropLineBreak rest)
  | '"' :: rest => basicBody rest
  | '\'' :: '\'' :: '\'' :: rest => multiLineLiteralBody (dropLineBreak rest)
  | '\'' :: rest => literalBody rest
  | _ => none

end Deckhand.Toml
