import Deckhand.Board.Basic

namespace Deckhand.Board

def showError (board : Board) (kind : Kind) (title : Option String) (failure : Failure) :
    Reaction :=
  let notice : Notice := ⟨title, failure.message⟩
  { board := (board.modifyPage kind (·.showError notice)).touch
    journal := [.error (Text.lower notice.text)] }

/-- Starts an operation and shows its progress. A page that waits for an operation takes no other. -/
def begin (board : Board) (kind : Kind) (operation : Operation) : Reaction :=
  let label := operation.label
  match (board.page kind).inFlight with
  | some _ =>
    .quiet (board.notify (.info (kind.noun ++ " " ++ label.verb ++ " ignored: another " ++
      kind.noun ++ " operation is in progress"))).touch
  | none =>
    let (id, board) := board.issueId
    let board := board.modifyPage kind fun page =>
      { page.display (.progress ⟨label.progressTitle, id⟩) with inFlight := some id }
    { board := board.touch, requests := [.run kind id operation] }

/-- The dialog in which an outcome is shown; a call that merely succeeded shows none. -/
def resultDialog? (kind : Kind) (label : Label) : Outcome → Option Dialog
  | .done | .batch _ => none
  | .text text => some (.message (.new label.resultTitle text))
  | .lines lines => some (.message (.new label.resultTitle (Text.unlines lines)))
  | .table report =>
    some (.table (.new (if label.verb == "search" then .searchResults else .report)
      label.resultTitle report))
  | .created id =>
    some (.message (.new label.resultTitle (kind.noun ++ " created: " ++ id)))

/-- Whether the tables are to be listed anew after an outcome. The removal of an image reports
lines, like calls that change nothing. -/
def changesTables (label : Label) : Outcome → Bool
  | .done | .batch _ | .created _ => true
  | .lines _ => label.verb == "remove"
  | .text _ | .table _ => false

/-- Shows an outcome. A dialog that was opened meanwhile stays, and the outcome is only named. -/
def present (board : Board) (kind : Kind) (label : Label) (outcome : Outcome) : Reaction :=
  let shown :=
    match resultDialog? kind label outcome with
    | none => board
    | some dialog =>
      if (board.page kind).hasDialog then
        board.notify (.info (label.resultTitle ++ " finished"))
      else board.modifyPage kind (·.display dialog)
  { board := shown
    requests := if changesTables label outcome then [.refreshNow] else [] }

def finish (board : Board) (kind : Kind) (id : OperationId) (label : Label)
    (result : Except Failure Outcome) : Reaction :=
  let board := (board.modifyPage kind fun page =>
    { page with
      layers := page.layers.hideProgress id
      inFlight := if page.inFlight = some id then none else page.inFlight }).touch
  match result with
  | .error failure => board.showError kind (some label.errorTitle) failure
  | .ok outcome => board.present kind label outcome

end Deckhand.Board
