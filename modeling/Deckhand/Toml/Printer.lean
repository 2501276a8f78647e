import Deckhand.Toml.Quoted

namespace Deckhand.Toml

def upperDigit (n : Nat) : Char := (Nat.digitChar n).toUpper

def numbered (c : Char) : List Char :=
  let n := c.toNat
  ['\\', 'u', upperDigit (n / 4096 % 16), upperDigit (n / 256 % 16), upperDigit (n / 16 % 16),
    upperDigit (n % 16)]

def escapeChar (c : Char) : List Char :=
  if c = '\x08' then ['\\', 'b']
  else if c = '\t' then ['\\', 't']
  else if c = '\x0c' then ['\\', 'f']
  else if c = '\r' then ['\\', 'r']
  else if c = '\\' then ['\\', '\\']
  else if isForbidden c then numbered c
  else [c]

def basicChars : List Char → List Char
  | [] => []
  | '"' :: rest => '\\' :: '"' :: basicChars rest
  | '\n' :: rest => '\\' :: 'n' :: basicChars rest
  | c :: rest => escapeChar c ++ basicChars rest

/-- The body between triple double quotes. Of quotes in a row every third is escaped; `quotes` counts
those just before. -/
def multiLineBasicChars (quotes : Nat) : List Char → List Char
  | [] => []
  | '"' :: rest =>
    if quotes = 2 then '\\' :: '"' :: multiLineBasicChars 0 rest
    else '"' :: multiLineBasicChars (quotes + 1) rest
  | '\n' :: rest => '\n' :: multiLineBasicChars 0 rest
  | c :: rest => escapeChar c ++ multiLineBasicChars 0 rest

/-- The length of the longest run of a character, `run` of which come just before. -/
def longestRun (wanted : Char) (run : Nat) : List Char → Nat
  | [] => run
  | c :: rest =>
    if c = wanted then longestRun wanted (run + 1) rest
    else max run (longestRun wanted 0 rest)

inductive Form where
  | basic
  | literal
  | multiLineBasic
  | multiLineLiteral
deriving DecidableEq

/-- The form in which a string is written: the first one that needs no escape and no triple quotes.
-/
def formOf (cs : List Char) : Form :=
  let controls := cs.any fun c => isForbidden c && c != '\n'
  let breaks := cs.contains '\n'
  let escapes := controls || cs.contains '\\'
  let double := longestRun '"' 0 cs
  let single := longestRun '\'' 0 cs
  if !escapes && double = 0 && !breaks then .basic
  else if !controls && single = 0 && !breaks then .literal
  else if !escapes && double ≤ 2 then .multiLineBasic
  else if !controls && single ≤ 2 then .multiLineLiteral
  else if breaks then .multiLineBasic
  else .basic

/-- A line break after triple quotes keeps the first line of the string in its column. -/
def opening (cs : List Char) : List Char := if cs.contains '\n' then ['\n'] else []

def stringChars (cs : List Char) : List Char :=
  match formOf cs with
  | .basic => ['"'] ++ basicChars cs ++ ['"']
  | .literal => ['\''] ++ cs ++ ['\'']
  | .multiLineBasic =>
    ['"', '"', '"'] ++ opening cs ++ multiLineBasicChars 0 cs ++ ['"', '"', '"']
  | .multiLineLiteral => ['\'', '\'', '\''] ++ opening cs ++ cs ++ ['\'', '\'', '\'']

def assignmentText (key value : String) : String := key ++ " = " ++ value ++ "\n"

def stringText (text : String) : String := String.ofList (stringChars text.toList)

end Deckhand.Toml
