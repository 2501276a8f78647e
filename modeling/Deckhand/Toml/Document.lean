import Deckhand.Toml.Number
import Deckhand.Toml.Table

namespace Deckhand.Toml

def skipBlanks (cs : List Char) : List Char := cs.dropWhile isBlank

def lineBreak? : List Char → Option (List Char)
  | '\n' :: rest => some rest
  | '\r' :: '\n' :: rest => some rest
  | _ => none

def isCommentChar (c : Char) : Bool := !isForbidden c

def lineEnd? (cs : List Char) : Option (List Char) :=
  let rest :=
    match skipBlanks cs with
    | '#' :: rest => rest.dropWhile isCommentChar
    | rest => rest
  match rest with
  | [] => some []
  | rest => lineBreak? rest

def skipGap (inComment : Bool) : List Char → Option (List Char)
  | [] => if inComment then none else some []
  | '\n' :: rest => skipGap false rest
  | '\r' :: '\n' :: rest => skipGap false rest
  | c :: rest =>
    if inComment then if isForbidden c then none else skipGap true rest
    else if isBlank c then skipGap false rest
    else if c = '#' then skipGap true rest
    else if c = '\r' then none
    else some (c :: rest)

def isBareKeyChar (c : Char) : Bool := c.isAlphanum || c = '_' || c = '-'

def simpleKey : Scan String
  | '"' :: rest => (basicBody rest).map fun (text, rest) => (String.ofList text, rest)
  | '\'' :: rest => (literalBody rest).map fun (text, rest) => (String.ofList text, rest)
  | cs =>
    let name := cs.takeWhile isBareKeyChar
    if name.isEmpty then none else some (String.ofList name, cs.dropWhile isBareKeyChar)

/-- Keys may have fewer parts, and values may be nested less deep, than this. -/
def depthLimit : Nat := 80

def keyParts : Nat → Scan (List String)
  | 0, _ => none
  | fuel + 1, cs => do
    let (part, rest) ← simpleKey (skipBlanks cs)
    match skipBlanks rest with
    | '.' :: rest =>
      let (parts, rest) ← keyParts fuel rest
      some (part :: parts, rest)
    | rest => some ([part], rest)

def key : Scan (List String) := keyParts (depthLimit - 1)

def numeric (cs : List Char) : Option (Scalar × List Char) :=
  match dateTime cs <|> decimal cs <|> special cs with
  | some rest => some (.other, rest)
  | none => (integer cs).map fun (n, rest) => (.integer n, rest)

def word (name : String) (cs : List Char) : Option (Scalar × List Char) :=
  (mark? name.toList cs).map fun rest => (.other, rest)

mutual

def value (depth : Nat) : Nat → List Char → Option (Scalar × List Char)
  | 0, _ => none
  | fuel + 1, cs =>
    match cs with
    | [] => none
    | c :: rest =>
      if c = '"' || c = '\'' then
        (quoted cs).map fun (text, rest) => (.string (String.ofList text), rest)
      else if c = '[' then
        if depth ≤ 1 then none
        else (items (depth - 1) fuel rest).map fun rest => (.other, rest)
      else if c = '\x7b' then
        if depth ≤ 1 then none
        else (pairs (depth - 1) fuel [] rest).map fun rest => (.other, rest)
      else if c = 't' then word "true" cs
      else if c = 'f' then word "false" cs
      else if c = 'i' then word "inf" cs
      else if c = 'n' then word "nan" cs
      else if c = '+' || c = '-' || c.isDigit then numeric cs
      else none

def items (depth : Nat) : Nat → List Char → Option (List Char)
  | 0, _ => none
  | fuel + 1, cs => do
    match ← skipGap false cs with
    | ']' :: rest => some rest
    | rest =>
      let (_, rest) ← value depth fuel rest
      match ← skipGap false rest with
      | ',' :: rest => items depth fuel rest
      | ']' :: rest => some rest
      | _ => none

/-- The entries of a table in braces, after those already read, and its closing brace. There is no
comma before the brace. -/
def pairs (depth : Nat) : Nat → Entries → List Char → Option (List Char)
  | 0, _, _ => none
  | fuel + 1, entries, cs =>
    match entries, skipBlanks cs with
    | [], '\x7d' :: rest => some rest
    | entries, cs => do
      let (path, rest) ← key cs
      let rest ← mark? ['='] rest
      let (scalar, rest) ← value depth fuel (skipBlanks rest)
      let last ← path.getLast?
      let entries ← entries.insert path.dropLast last (.value scalar)
      match skipBlanks rest with
      | ',' :: rest => pairs depth fuel entries rest
      | '\x7d' :: rest => some rest
      | _ => none

end

def header (cs : List Char) : Option ((List String × Bool) × List Char) :=
  match cs with
  | '[' :: rest => do
    let (path, rest) ← key rest
    let rest ← mark? [']', ']'] rest
    let rest ← lineEnd? rest
    some ((path, true), rest)
  | rest => do
    let (path, rest) ← key rest
    let rest ← mark? [']'] rest
    let rest ← lineEnd? rest
    some ((path, false), rest)

def assignment (cs : List Char) : Option ((List String × Scalar) × List Char) := do
  let (path, rest) ← key cs
  let rest ← mark? ['='] rest
  let rest := skipBlanks rest
  let (scalar, rest) ← value depthLimit (rest.length + 1) rest
  let rest ← lineEnd? rest
  some ((path, scalar), rest)

def lines : Nat → Filling → List Char → Option Entries
  | 0, _, _ => none
  | fuel + 1, filling, cs =>
    match skipBlanks cs with
    | [] => filling.close
    | '#' :: rest =>
      match rest.dropWhile isCommentChar with
      | [] => filling.close
      | rest => (lineBreak? rest).bind (lines fuel filling)
    | '\n' :: rest => lines fuel filling rest
    | '\r' :: rest => (mark? ['\n'] rest).bind (lines fuel filling)
    | '[' :: rest => do
      let ((path, isElement), rest) ← header rest
      lines fuel (← filling.open? path isElement) rest
    | cs => do
      let ((path, scalar), rest) ← assignment cs
      lines fuel (← filling.add path (.value scalar)) rest

/-- The keys of a document outside of any table. A byte order mark in front is skipped. -/
def parse? (text : String) : Option Entries :=
  let cs := match text.toList with
    | '\ufeff' :: rest => rest
    | cs => cs
  lines (cs.length + 1) .start cs

end Deckhand.Toml
