import Deckhand.Unicode.Printable

namespace Deckhand.Text

def hexDigits (n : Nat) : String := String.ofList (Nat.toDigits 16 n)

/-- Every character that does not show as itself is written as an escape. -/
def quoteChar (c : Char) : String :=
  match c with
  | '\t' => "\\t"
  | '\n' => "\\n"
  | '\r' => "\\r"
  | '"' => "\\\""
  | '\\' => "\\\\"
  | c =>
    if c.toNat = 0 then "\\0"
    else if Unicode.graphemeExtend.contains c || Unicode.unprintable.contains c then
      "\\u\x7b" ++ hexDigits c.toNat ++ "\x7d"
    else c.toString

def quote (text : String) : String :=
  "\"" ++ String.join (text.toList.map quoteChar) ++ "\""

def bracketed (items : List String) : String := "[" ++ ", ".intercalate items ++ "]"

def quoteAll (texts : List String) : String := bracketed (texts.map quote)

end Deckhand.Text
