import Deckhand.Board.Keys

namespace Deckhand

inductive Event where
  | key (key : Key)
  | resize (width height : Nat)
  | listRefreshed (kind : Kind)
  | listFailed (kind : Kind) (error : String)
  | statsUpdated (kind : Kind) (id : OperationId) (report : Report)
  | statsFailed (kind : Kind) (id : OperationId) (error : String)
  | finished (kind : Kind) (id : OperationId) (label : Label) (result : Except Failure Outcome)
  | choicesLoaded (kind : Kind) (choices : Choices)

namespace Board

def monitor? (board : Board) (kind : Kind) (id : OperationId) : Option Monitor :=
  match (board.page kind).layers.dialog with
  | some (.stats monitor) => if monitor.id = id then some monitor else none
  | _ => none

def refuseList (board : Board) (kind : Kind) (error : String) : Reaction where
  board := (board.notify (.error ("cannot refresh " ++ kind.title ++ ": " ++ error))).touch
  journal := [.warning ("Message::ListFailed kind=" ++ kind.title ++ " err=" ++ error)]

/-- Shows the figures of a sampler, unless its dialog has been closed. -/
def updateStats (board : Board) (kind : Kind) (id : OperationId) (report : Report) : Board :=
  match board.monitor? kind id with
  | some monitor =>
    (board.modifyPage kind (·.display (.stats { monitor with report := some report }))).touch
  | none => board

def failStats (board : Board) (kind : Kind) (id : OperationId) (error : String) : Reaction :=
  match board.monitor? kind id with
  | some _ =>
    (board.closeStats kind).andThen
      (·.showError kind (some (Text.upper kind.noun ++ " STATS ERROR")) (.host error))
  | none => .quiet board

def handle (board : Board) : Event → Reaction
  | .key key => board.handleKey key
  | .resize _ _ => .quiet board.touch
  | .listRefreshed kind => .quiet (board.reconcile kind).touch
  | .listFailed kind error => board.refuseList kind error
  | .statsUpdated kind id report => .quiet (board.updateStats kind id report)
  | .statsFailed kind id error => board.failStats kind id error
  | .finished kind id label result => board.finish kind id label result
  | .choicesLoaded kind choices => .quiet (board.openCreate kind choices)

end Board

end Deckhand
