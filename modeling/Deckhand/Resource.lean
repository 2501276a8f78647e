import Deckhand.Kind
import Deckhand.Json.Raw
import Deckhand.Json.Printer

namespace Deckhand

structure Ref where
  id : String
  name : String
deriving DecidableEq, Inhabited

/-- One resource as listed by the host, with one cell for each header of its kind. -/
structure Row where
  id : String
  name : String
  cells : List String
deriving DecidableEq, Inhabited

abbrev Tables := PerKind (List Row)

def Tables.empty : Tables := PerKind.ofFn fun _ => []

namespace Row

def ref (row : Row) : Ref := ⟨row.id, row.name⟩

def toJson (row : Row) : Json :=
  .object [("id", .string row.id), ("name", .string row.name),
    ("cells", .array (row.cells.map .string))]

end Row

namespace Json.Raw

def text? : Raw → Option String
  | string text true => some text
  | _ => none

def texts? : Raw → Option (List String)
  | array items => items.mapM text?
  | _ => none

def only? (members : List (String × Raw)) (key : String) : Option Raw :=
  match members.filter (·.1 == key) with
  | [(_, value)] => some value
  | _ => none

end Json.Raw

/-- A row written as an object with other members ignored, or as an array of its three parts. -/
def Row.ofRaw? : Json.Raw → Option Row
  | .array [id, name, cells] => do
    some ⟨← id.text?, ← name.text?, ← cells.texts?⟩
  | .object members => do
    let members ← members.mapM fun (key, value) => key.text?.map (·, value)
    some ⟨← (← Json.Raw.only? members "id").text?, ← (← Json.Raw.only? members "name").text?,
      ← (← Json.Raw.only? members "cells").texts?⟩
  | _ => none

def Row.parse? (text : String) : Option Row := (Json.Raw.parse? text).bind Row.ofRaw?

/-- A kind written as its title, or as an object whose one member has the title as key and null as
value. -/
def Kind.ofRaw? : Json.Raw → Option Kind
  | .string text true => ofTitle? text
  | .object [(key, .null)] => key.text?.bind ofTitle?
  | _ => none

def Kind.parse? (text : String) : Option Kind := (Json.Raw.parse? text).bind Kind.ofRaw?

end Deckhand
