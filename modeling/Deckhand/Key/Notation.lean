import Deckhand.Key

namespace Deckhand

def KeyCode.names : List (String × KeyCode) := [
  ("Tab", .tab), ("BackTab", .backTab), ("Enter", .enter), ("Esc", .escape), ("Up", .up),
  ("Down", .down), ("Left", .left), ("Right", .right), ("Backspace", .backspace),
  ("Delete", .delete), ("Home", .home), ("End", .«end»), ("PageUp", .pageUp),
  ("PageDown", .pageDown), ("F1", .function 1), ("Null", .null)]

def KeyCode.ofText? (text : String) : Option KeyCode :=
  match KeyCode.names.lookup text, text.toList with
  | some code, _ => some code
  | none, [c] => some (.char c)
  | none, _ => none

namespace Key

/-- The modifiers before a key, each followed by a plus sign. -/
def modifiers : List (List Char × (Key → Key)) := [
  ("Ctrl+".toList, ({ · with control := true })),
  ("Alt+".toList, ({ · with alt := true })),
  ("Shift+".toList, ({ · with shift := true }))]

def ofChars? : Nat → List Char → Option Key
  | 0, _ => none
  | fuel + 1, cs =>
    match modifiers.find? (·.1.isPrefixOf cs) with
    | some (mark, hold) => (ofChars? fuel (cs.drop mark.length)).map hold
    | none => (KeyCode.ofText? (String.ofList cs)).map ({ code := · })

def ofText? (text : String) : Option Key := ofChars? (text.length + 1) text.toList

end Key

end Deckhand
