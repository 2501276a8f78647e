import Deckhand.Board.Operations

namespace Deckhand.Board

def askConfirmation (board : Board) (kind : Kind) (confirmation : Confirmation) : Board :=
  board.modifyPage kind fun page =>
    { page.display (.confirm (.ofConfirmation kind confirmation)) with
      confirmation := some confirmation }

def openStats (board : Board) (kind : Kind) (ids : List String) : Reaction :=
  let (id, board) := board.issueId
  let board := board.modifyPage kind fun page =>
    { page.display (.stats ⟨kind, id, ids, none⟩) with live := true }
  { board, requests := [.startLive kind id ids] }

def requestCreate (board : Board) (kind : Kind) : Reaction where
  board := board.modifyPage kind ({ · with pendingCreate := true })
  requests := [.loadChoices kind]

def act (board : Board) (kind : Kind) (selection : Option Ref) : Action → Reaction
  | .confirm destruction => .quiet (board.askConfirmation kind ⟨destruction, selection⟩)
  | .run verb =>
    match selection with
    | some target => board.begin kind (.target kind verb target.id)
    | none => .quiet board
  | .prompt purpose =>
    .quiet (board.modifyPage kind (·.display (.input (.new purpose selection))))
  | .create => board.requestCreate kind
  | .stats => board.openStats kind (selection.map (·.id)).toList

def runCommand (board : Board) (kind : Kind) (name : String) : Reaction :=
  match Command.find? kind name with
  | none =>
    { board
      journal := [.warning ("run_command: unknown " ++ kind.noun ++ " command " ++ name)] }
  | some command =>
    let board := board.modifyPage kind (·.hide .commands)
    let selection := (board.page kind).selection
    if command.needsSelection && selection.isNone then
      board.showError kind none (.nothingSelected (command.missingSelection kind))
    else (board.act kind selection command.action).andThen (.quiet ·.touch)

def confirmedOperation? (kind : Kind) (confirmation : Confirmation) : Option Operation :=
  match confirmation.destruction, confirmation.target with
  | .prune, _ => some (.prune kind)
  | .remove, some target => some (.target kind .remove target.id)
  | .kill, some target => some (.target kind .kill target.id)
  | .remove, none | .kill, none => none

def destructionName : Destruction → String
  | .prune => "Prune"
  | .remove => "Remove"
  | .kill => "Kill"

def acceptConfirmation (board : Board) (kind : Kind) : Reaction :=
  let confirmation := (board.page kind).confirmation
  let board := board.modifyPage kind fun page => { page.hide .confirm with confirmation := none }
  match confirmation with
  | none =>
    { board
      journal := [.warning ("accept_confirmation: no pending " ++ kind.noun ++ " confirmation")] }
  | some confirmation =>
    match confirmedOperation? kind confirmation with
    | some operation => board.begin kind operation
    | none =>
      { board
        journal := [.warning ("accept_confirmation: " ++
          destructionName confirmation.destruction ++ " without a target")] }

def cancelConfirmation (board : Board) (kind : Kind) : Board :=
  (board.modifyPage kind fun page => { page.hide .confirm with confirmation := none }).touch

def promptedOperation (purpose : Purpose) (id text : String) : Operation :=
  match purpose with
  | .rename => .rename id text
  | .tag => .tag id text
  | .untag => .untag id text
  | .exec => .exec id (Text.words text)
  | .search => .search text

/-- Starts what a text was asked for. A blank text only closes the prompt. -/
def submitText (board : Board) (kind : Kind) (purpose : Purpose) (value : String)
    (target : Option Ref) : Reaction :=
  let board := (board.modifyPage kind (·.hide .input)).touch
  let text := Text.trim value
  if text.isEmpty then .quiet board
  else board.begin kind (promptedOperation purpose ((target.map (·.id)).getD "") text)

/-- Opens the form for a new resource, if it is still waited for and no dialog is open. -/
def openCreate (board : Board) (kind : Kind) (choices : Choices) : Board :=
  let wanted := (board.page kind).pendingCreate && !(board.page kind).hasDialog
  let board := board.modifyPage kind ({ · with pendingCreate := false })
  if wanted then
    match CreateForm.new? kind choices board.settings.infraImage with
    | some form => (board.modifyPage kind (·.display (.create form))).touch
    | none => board
  else board

/-- Creates what the form describes. A form with a mistake stays open under the error. -/
def submitCreate (board : Board) (kind : Kind) : Reaction :=
  match (board.page kind).layers.dialog with
  | some (.create form) =>
    match form.spec with
    | .ok spec => (board.modifyPage kind (·.hide .create)).begin kind (.create spec)
    | .error failure =>
      board.showError kind (some (Text.upper kind.noun ++ " CREATE ERROR")) failure
  | _ => .quiet board

def closeStats (board : Board) (kind : Kind) : Reaction where
  board := (board.modifyPage kind fun page => { page.hide .stats with live := false }).touch
  requests := if (board.page kind).live then [.stopLive kind] else []

def pullImage (board : Board) (kind : Kind) (image : String) : Reaction :=
  (board.modifyPage kind (·.hide .table)).begin kind (.pull image)

end Deckhand.Board
