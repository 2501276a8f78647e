import Deckhand.FirstMatch
import Deckhand.Form.Basic

namespace Deckhand

namespace Form

/-- Applies `f` to the value of the first field with the key. -/
def modifyValue (form : Form) (key : String) (f : FieldValue → FieldValue) : Form :=
  { form with
    sections := modifyFirst (·.fields.any (·.key == key))
      (fun part => { part with
        fields := modifyFirst (·.key == key) (fun field => { field with value := f field.value })
          part.fields })
      form.sections }

def selectOption (form : Form) (key : String) (selected : Nat) : Form :=
  form.modifyValue key fun value =>
    match value with
    | .choice options _ => .choice options selected
    | value => value

end Form

end Deckhand
