import Deckhand.Json.Number

namespace Deckhand

/-- A value. The members of an object are in the order of the text. -/
inductive Json where
  | null
  | bool (b : Bool)
  | number (n : Json.Number)
  | string (s : String)
  | array (items : List Json)
  | object (members : List (String × Json))

namespace Json

/-- The member of an object; of several with one key the last counts. -/
def get? (value : Json) (key : String) : Option Json :=
  match value with
  | object members => (members.reverse.find? (·.1 == key)).map (·.2)
  | _ => none

def items? : Json → Option (List Json)
  | array items => some items
  | _ => none

def string? : Json → Option String
  | string s => some s
  | _ => none

def number? : Json → Option Number
  | number n => some n
  | _ => none

def scalarText? : Json → Option String
  | string s => some s
  | number n => some n.text
  | bool b => some (if b then "true" else "false")
  | null | array _ | object _ => none

end Json

end Deckhand
