import Deckhand.Catalog

namespace Deckhand

structure Picker where
  kind : Kind
  cursor : Nat
deriving DecidableEq, Inhabited

namespace Picker

def ofKind (kind : Kind) : Picker := ⟨kind, 0⟩

def commands (picker : Picker) : List Command := catalog picker.kind

def selected? (picker : Picker) : Option Command := picker.commands[picker.cursor]?

def down (picker : Picker) : Picker :=
  let count := picker.commands.length
  if count > 0 then { picker with cursor := (picker.cursor + 1) % count } else picker

def up (picker : Picker) : Picker :=
  let count := picker.commands.length
  if count > 0 then
    { picker with cursor := if picker.cursor = 0 then count - 1 else picker.cursor - 1 }
  else picker

end Picker

end Deckhand
