import Deckhand.Board.Commands

namespace Deckhand.Board

/-- The page that a key leads to from the page of `kind`. -/
def pageKey? (kind : Kind) (key : Key) : Option Kind :=
  match key.code with
  | .tab => some kind.next
  | .backTab => some kind.previous
  | .char '1' => some .containers
  | .char '2' => some .pods
  | .char '3' => some .images
  | .char '4' => some .networks
  | .char '5' => some .volumes
  | _ => none

def switchTo (board : Board) (kind : Kind) : Board := { board with active := kind }.reconcile kind

def tableKey (board : Board) (key : Key) : Reaction :=
  let kind := board.active
  match pageKey? kind key with
  | some kind => .quiet (board.switchTo kind)
  | none =>
    if key.isDown then .quiet ((board.modifyPage kind (·.down (board.rows kind))).reconcile kind)
    else if key.isUp then .quiet ((board.modifyPage kind (·.up (board.rows kind))).reconcile kind)
    else match key.code with
      | .enter | .char 'm' =>
        .quiet ((board.reconcile kind).modifyPage kind (·.display (.commands (.ofKind kind))))
      | .char 'q' => { board, requests := [.quit] }
      | _ => .quiet board

/-- A key while an operation is in progress: only the page can be changed. -/
def progressKey (board : Board) (key : Key) : Board :=
  match pageKey? board.active key with
  | some kind => board.switchTo kind
  | none => board

def errorKey (board : Board) (key : Key) : Board :=
  match key.code with
  | .enter | .escape =>
    board.modifyPage board.active fun page => { page with layers := page.layers.dismissError }
  | _ => board

def update (board : Board) (kind : Kind) (dialog : Dialog) : Reaction :=
  .quiet (board.modifyPage kind (·.display dialog))

def close (board : Board) (kind : Kind) (sort : DialogSort) : Reaction :=
  .quiet (board.modifyPage kind (·.hide sort))

def pickerKey (board : Board) (kind : Kind) (picker : Picker) (key : Key) : Reaction :=
  match key.code with
  | .enter =>
    match picker.selected? with
    | some command => board.runCommand kind command.name
    | none => .quiet board
  | .escape => board.close kind .commands
  | _ => .quiet board

def promptKey (board : Board) (kind : Kind) (prompt : Prompt) (key : Key) : Reaction :=
  match key.code with
  | .char c => board.update kind (.input (prompt.push c))
  | .backspace => board.update kind (.input prompt.pop)
  | .enter => board.submitText kind prompt.purpose prompt.value prompt.target
  | .escape => board.close kind .input
  | _ => .quiet board

def pagerKey (board : Board) (kind : Kind) (key : Key) : Reaction :=
  match key.code with
  | .enter | .escape => board.close kind .message
  | _ => .quiet board

def confirmKey (board : Board) (kind : Kind) (confirm : Confirm) (key : Key) : Reaction :=
  match key.code with
  | .tab | .backTab | .left | .right => board.update kind (.confirm confirm.toggle)
  | .enter =>
    if confirm.acceptFocused then board.acceptConfirmation kind
    else .quiet (board.cancelConfirmation kind)
  | .escape => .quiet (board.cancelConfirmation kind)
  | _ => .quiet board

def createKey (board : Board) (kind : Kind) (create : CreateForm) (key : Key) : Reaction :=
  let (form, event) := create.form.handleKey key
  let board := board.modifyPage kind (·.display (.create { create with form }))
  match event with
  | .none => .quiet board
  | .cancel => board.close kind .create
  | .submit => board.submitCreate kind

def listingKey (board : Board) (kind : Kind) (listing : Listing) (key : Key) : Reaction :=
  match key.code with
  | .enter =>
    match listing.use, listing.selectedImage? with
    | .searchResults, some image => board.pullImage kind image
    | _, _ => board.close kind .table
  | .escape => board.close kind .table
  | _ => .quiet board

def statsKey (board : Board) (kind : Kind) (key : Key) : Reaction :=
  match key.code with
  | .enter | .escape => board.closeStats kind
  | _ => .quiet board

def dialogKey (board : Board) (dialog : Dialog) (key : Key) : Reaction :=
  let kind := board.active
  if dialog.hasLines && key.isDown then board.update kind dialog.down
  else if dialog.hasLines && key.isUp then board.update kind dialog.up
  else match dialog with
  | .commands picker => board.pickerKey kind picker key
  | .input prompt => board.promptKey kind prompt key
  | .message _ => board.pagerKey kind key
  | .confirm confirm => board.confirmKey kind confirm key
  | .create create => board.createKey kind create key
  | .table listing => board.listingKey kind listing key
  | .stats _ => board.statsKey kind key
  | .progress _ => .quiet (board.progressKey key)

/-- A key goes to the error, else to the dialog, else to the table. -/
def routeKey (board : Board) (key : Key) : Reaction :=
  let layers := board.activePage.layers
  match layers.error, layers.dialog with
  | some _, _ => .quiet (board.errorKey key)
  | none, some dialog => board.dialogKey dialog key
  | none, none => board.tableKey key

def handleKey (board : Board) (key : Key) : Reaction :=
  if key.isInterrupt then { board, requests := [.quit] }
  else { board with notification := none, dirty := true }.routeKey key

end Deckhand.Board
