import Deckhand.Create.Form
import Deckhand.Dialog.Confirm
import Deckhand.Dialog.Listing
import Deckhand.Dialog.Pager
import Deckhand.Dialog.Picker
import Deckhand.Dialog.Prompt

namespace Deckhand

structure OperationId where
  number : Nat
deriving DecidableEq, Inhabited

/-- Live figures of some resources. Reports of another sampler are not for this dialog. -/
structure Monitor where
  kind : Kind
  id : OperationId
  ids : List String
  report : Option Report
deriving DecidableEq, Inhabited

def Monitor.title (monitor : Monitor) : String := "podman " ++ monitor.kind.noun ++ " stats"

structure Progress where
  title : String
  id : OperationId
deriving DecidableEq, Inhabited

inductive Dialog where
  | commands (picker : Picker)
  | input (prompt : Prompt)
  | message (pager : Pager)
  | confirm (confirm : Confirm)
  | create (form : CreateForm)
  | table (listing : Listing)
  | stats (monitor : Monitor)
  | progress (progress : Progress)
deriving DecidableEq, Inhabited

inductive DialogSort where
  | commands
  | input
  | message
  | confirm
  | create
  | table
  | stats
  | progress
deriving DecidableEq, Inhabited

namespace DialogSort

def all : List DialogSort :=
  [commands, input, message, confirm, create, table, stats, progress]

def name : DialogSort → String
  | commands => "commands"
  | input => "input"
  | message => "message"
  | confirm => "confirm"
  | create => "create"
  | table => "table"
  | stats => "stats"
  | progress => "progress"

def ofName? (name : String) : Option DialogSort := all.find? (·.name == name)

end DialogSort

namespace Dialog

def sort : Dialog → DialogSort
  | commands _ => .commands
  | input _ => .input
  | message _ => .message
  | confirm _ => .confirm
  | create _ => .create
  | table _ => .table
  | stats _ => .stats
  | progress _ => .progress

def down : Dialog → Dialog
  | commands picker => commands picker.down
  | message pager => message pager.down
  | table listing => table listing.down
  | dialog => dialog

def up : Dialog → Dialog
  | commands picker => commands picker.up
  | message pager => message pager.up
  | table listing => table listing.up
  | dialog => dialog

def hasLines : Dialog → Bool
  | commands _ | message _ | table _ => true
  | input _ | confirm _ | create _ | stats _ | progress _ => false

end Dialog

structure Notice where
  title : Option String
  message : String
deriving DecidableEq, Inhabited

def Notice.text (notice : Notice) : String :=
  match notice.title with
  | some title => title ++ ": " ++ notice.message
  | none => notice.message

inductive Focus where
  | error
  | dialog (sort : DialogSort)
  | table
deriving DecidableEq, Inhabited

structure Layers where
  error : Option Notice
  dialog : Option Dialog
deriving DecidableEq, Inhabited

namespace Layers

def empty : Layers := ⟨none, none⟩

def display (layers : Layers) (dialog : Dialog) : Layers := { layers with dialog := some dialog }

def isDisplayed (layers : Layers) (sort : DialogSort) : Bool :=
  layers.dialog.map (·.sort) = some sort

def hide (layers : Layers) (sort : DialogSort) : Layers :=
  if layers.isDisplayed sort then { layers with dialog := none } else layers

def showsProgress (layers : Layers) (id : OperationId) : Bool :=
  match layers.dialog with
  | some (.progress progress) => progress.id = id
  | _ => false

/-- Takes the progress of one operation away and leaves any other dialog. -/
def hideProgress (layers : Layers) (id : OperationId) : Layers :=
  if layers.showsProgress id then { layers with dialog := none } else layers

def showError (layers : Layers) (notice : Notice) : Layers := { layers with error := some notice }

def dismissError (layers : Layers) : Layers := { layers with error := none }

def isEmpty (layers : Layers) : Bool := layers.error.isNone && layers.dialog.isNone

def focus (layers : Layers) : Focus :=
  match layers.error, layers.dialog with
  | some _, _ => .error
  | none, some dialog => .dialog dialog.sort
  | none, none => .table

end Layers

end Deckhand
