import Deckhand.Board.Events

namespace Deckhand

namespace Page

structure Context where
  kind : Kind
  rows : List Row
  nextId : OperationId
  infraImage : String

structure Output where
  requests : List Request := []
  notice : Option Notification := none

def clear (page : Page) : Page := { page with layers := { page.layers with dialog := none } }

def await (page : Page) (id : OperationId) (operation : Operation) : Page :=
  { page.display (.progress ⟨operation.label.progressTitle, id⟩) with inFlight := some id }

def settle (page : Page) (id : OperationId) : Page :=
  { page with
    layers := page.layers.hideProgress id
    inFlight := if page.inFlight = some id then none else page.inFlight }

section

variable (page : Page) (dialog dialog' : Dialog) (notice : Notice) (rows : List Row)

@[simp] theorem layers_clear : page.clear.layers = ⟨page.layers.error, none⟩ := rfl
@[simp] theorem inFlight_clear : page.clear.inFlight = page.inFlight := rfl
@[simp] theorem live_clear : page.clear.live = page.live := rfl
@[simp] theorem confirmation_clear : page.clear.confirmation = page.confirmation := rfl
@[simp] theorem selection_clear : page.clear.selection = page.selection := rfl

@[simp] theorem layers_display :
    (page.display dialog).layers = ⟨page.layers.error, some dialog⟩ := rfl
@[simp] theorem inFlight_display : (page.display dialog).inFlight = page.inFlight := rfl
@[simp] theorem live_display : (page.display dialog).live = page.live := rfl
@[simp] theorem confirmation_display : (page.display dialog).confirmation = page.confirmation := rfl
@[simp] theorem display_clear : page.clear.display dialog = page.display dialog := rfl

@[simp] theorem layers_showError :
    (page.showError notice).layers = ⟨some notice, page.layers.dialog⟩ := rfl
@[simp] theorem inFlight_showError : (page.showError notice).inFlight = page.inFlight := rfl
@[simp] theorem live_showError : (page.showError notice).live = page.live := rfl
@[simp] theorem confirmation_showError :
    (page.showError notice).confirmation = page.confirmation := rfl

@[simp] theorem layers_reconcile : (page.reconcile rows).layers = page.layers := rfl
@[simp] theorem inFlight_reconcile : (page.reconcile rows).inFlight = page.inFlight := rfl
@[simp] theorem live_reconcile : (page.reconcile rows).live = page.live := rfl
@[simp] theorem confirmation_reconcile :
    (page.reconcile rows).confirmation = page.confirmation := rfl

end

theorem dialog_display (page : Page) (dialog : Dialog) :
    (page.display dialog).layers.dialog = some dialog := rfl

theorem hide_eq_clear {page : Page} {dialog : Dialog} (sort : DialogSort)
    (h : page.layers.dialog = some dialog) (hs : dialog.sort = sort) :
    page.hide sort = page.clear := by
  simp [hide, clear, Layers.hide, Layers.isDisplayed, h, hs]

/-- The dialog that a key would go to. -/
def Faces (page : Page) (dialog : Dialog) : Prop :=
  page.layers.error = none ∧ page.layers.dialog = some dialog

def Misses (id : OperationId) (page : Page) : Prop :=
  ∀ monitor, page.layers.dialog = some (.stats monitor) → monitor.id ≠ id

def Bare (page : Page) : Prop := page.layers.error = none ∧ page.layers.dialog = none

end Page

def Key.MovesFocus (key : Key) : Prop :=
  key.code = .tab ∨ key.code = .backTab ∨ key.code = .left ∨ key.code = .right

namespace Dialog

inductive Edit (key : Key) : Dialog → Dialog → Prop
  | down {dialog} : dialog.hasLines = true → key.isDown = true → Edit key dialog dialog.down
  | up {dialog} : dialog.hasLines = true → key.isUp = true → Edit key dialog dialog.up
  | push {prompt : Prompt} {c} : key.code = .char c →
      Edit key (.input prompt) (.input (prompt.push c))
  | pop {prompt : Prompt} : key.code = .backspace → Edit key (.input prompt) (.input prompt.pop)
  | toggle {confirm : Confirm} : key.MovesFocus →
      Edit key (.confirm confirm) (.confirm confirm.toggle)
  | fill {create : CreateForm} {form} : create.form.handleKey key = (form, .none) →
      Edit key (.create create) (.create { create with form })

def closes : Dialog → Bool
  | commands _ | input _ | message _ | create _ | table _ => true
  | confirm _ | stats _ | progress _ => false

end Dialog

namespace Page

def Picks (kind : Kind) (key : Key) (page : Page) (command : Command) : Prop :=
  key.code = .enter ∧ ∃ picker chosen, page.Faces (.commands picker) ∧
    picker.selected? = some chosen ∧ Command.find? kind chosen.name = some command ∧
    (command.needsSelection = true → page.selection.isSome = true)

/-- A key hands in an operation, and the page is left without the dialog that it came from. -/
inductive Submits (kind : Kind) (key : Key) (page : Page) : Operation → Page → Prop
  | command {command verb target} : Picks kind key page command → command.action = .run verb →
      page.selection = some target → Submits kind key page (.target kind verb target.id) page.clear
  | accept {confirm confirmation operation} : key.code = .enter → page.Faces (.confirm confirm) →
      confirm.acceptFocused = true → page.confirmation = some confirmation →
      Board.confirmedOperation? kind confirmation = some operation →
      Submits kind key page operation { page.clear with confirmation := none }
  | text {prompt : Prompt} : key.code = .enter → page.Faces (.input prompt) →
      (Text.trim prompt.value).isEmpty = false →
      Submits kind key page
        (Board.promptedOperation prompt.purpose ((prompt.target.map (·.id)).getD "")
          (Text.trim prompt.value)) page.clear
  | form {create form spec} : page.Faces (.create create) →
      create.form.handleKey key = (form, .submit) →
      { create with form : CreateForm }.spec = .ok spec →
      Submits kind key page (.create spec) page.clear
  | hit {listing image} : key.code = .enter → page.Faces (.table listing) →
      listing.use = .searchResults → listing.selectedImage? = some image →
      Submits kind key page (.pull image) page.clear

/-- What an event makes of the page that it is addressed to. `Board.handle_step` shows that the
board does nothing else; what holds along every run is derived from these cases alone. -/
inductive Step (c : Context) (page : Page) : Event → Page → Output → Prop
  | keep {key} : Step c page (.key key) page {}
  | quit {key} : key.isInterrupt = true ∨ page.Bare ∧ key.code = .char 'q' →
      Step c page (.key key) page { requests := [.quit] }
  | dismiss {key} : key.code = .enter ∨ key.code = .escape → page.layers.error.isSome = true →
      Step c page (.key key) { page with layers := page.layers.dismissError } {}
  /-- The key of the page's own tab. -/
  | revisit {key} : Board.pageKey? c.kind key = some c.kind →
      page.Bare ∨ (∃ progress, page.Faces (.progress progress)) →
      Step c page (.key key) (page.reconcile c.rows) {}
  | move {key cursor} : page.Bare →
      Step c page (.key key) ({ page with cursor }.reconcile c.rows) {}
  | browse {key} : key.code = .enter ∨ key.code = .char 'm' → page.Bare →
      Step c page (.key key)
        ((page.reconcile c.rows).display (.commands (.ofKind c.kind))) {}
  | edit {key dialog dialog'} : page.Faces dialog → dialog.Edit key dialog' →
      Step c page (.key key) (page.display dialog') {}
  | close {key dialog} : page.Faces dialog → dialog.closes = true →
      Step c page (.key key) page.clear {}
  | cancel {key confirm} : page.Faces (.confirm confirm) →
      Step c page (.key key) { page.clear with confirmation := none } {}
  | refuse {key picker chosen command} : key.code = .enter → page.Faces (.commands picker) →
      picker.selected? = some chosen → Command.find? c.kind chosen.name = some command →
      command.needsSelection = true → page.selection = none →
      Step c page (.key key)
        (page.clear.showError ⟨none, command.missingSelection c.kind⟩) {}
  | ask {key command destruction} : Picks c.kind key page command →
      command.action = .confirm destruction →
      Step c page (.key key)
        { page.display (.confirm (.ofConfirmation c.kind ⟨destruction, page.selection⟩)) with
          confirmation := some ⟨destruction, page.selection⟩ } {}
  | prompt {key command purpose} : Picks c.kind key page command →
      command.action = .prompt purpose →
      Step c page (.key key) (page.display (.input (.new purpose page.selection))) {}
  | requestCreate {key command} : Picks c.kind key page command → command.action = .create →
      Step c page (.key key) { page.clear with pendingCreate := true }
        { requests := [.loadChoices c.kind] }
  | openStats {key command} : Picks c.kind key page command → command.action = .stats →
      Step c page (.key key)
        { page.display (.stats ⟨c.kind, c.nextId, (page.selection.map (·.id)).toList, none⟩) with
          live := true }
        { requests := [.startLive c.kind c.nextId (page.selection.map (·.id)).toList] }
  | begin {key operation rest} : Submits c.kind key page operation rest → rest.inFlight = none →
      Step c page (.key key) (rest.await c.nextId operation)
        { requests := [.run c.kind c.nextId operation] }
  /-- The page waits for another operation. -/
  | busy {key operation rest id} : Submits c.kind key page operation rest →
      rest.inFlight = some id →
      Step c page (.key key) rest
        { notice := some (.info (c.kind.noun ++ " " ++ operation.verb ++ " ignored: another " ++
            c.kind.noun ++ " operation is in progress")) }
  | reject {key create form failure} : page.Faces (.create create) →
      create.form.handleKey key = (form, .submit) →
      { create with form : CreateForm }.spec = .error failure →
      Step c page (.key key)
        ((page.display (.create { create with form })).showError
          ⟨some (Text.upper c.kind.noun ++ " CREATE ERROR"), failure.message⟩) {}
  | closeStats {key monitor} : key.code = .enter ∨ key.code = .escape →
      page.Faces (.stats monitor) →
      Step c page (.key key) { page.clear with live := false }
        { requests := if page.live then [.stopLive c.kind] else [] }
  | refresh : Step c page (.listRefreshed c.kind) (page.reconcile c.rows) {}
  | refuseList {error} : Step c page (.listFailed c.kind error) page
      { notice := some (.error ("cannot refresh " ++ c.kind.title ++ ": " ++ error)) }
  | sample {id report monitor} : page.layers.dialog = some (.stats monitor) → monitor.id = id →
      Step c page (.statsUpdated c.kind id report)
        (page.display (.stats { monitor with report := some report })) {}
  | missSample {id report} : page.Misses id → Step c page (.statsUpdated c.kind id report) page {}
  | missFailure {id error} : page.Misses id → Step c page (.statsFailed c.kind id error) page {}
  | failStats {id error monitor} : page.layers.dialog = some (.stats monitor) → monitor.id = id →
      Step c page (.statsFailed c.kind id error)
        ({ page.clear with live := false }.showError
          ⟨some (Text.upper c.kind.noun ++ " STATS ERROR"), error⟩)
        { requests := if page.live then [.stopLive c.kind] else [] }
  | fail {id label failure} :
      Step c page (.finished c.kind id label (.error failure))
        ((page.settle id).showError ⟨some label.errorTitle, failure.message⟩) {}
  | succeed {id label outcome} : Board.resultDialog? c.kind label outcome = none →
      Step c page (.finished c.kind id label (.ok outcome)) (page.settle id)
        { requests := if Board.changesTables label outcome then [.refreshNow] else [] }
  | present {id label outcome dialog} :
      Board.resultDialog? c.kind label outcome = some dialog →
      (page.settle id).layers.dialog = none →
      Step c page (.finished c.kind id label (.ok outcome)) ((page.settle id).display dialog)
        { requests := if Board.changesTables label outcome then [.refreshNow] else [] }
  | mention {id label outcome dialog shown} :
      Board.resultDialog? c.kind label outcome = some dialog →
      (page.settle id).layers.dialog = some shown →
      Step c page (.finished c.kind id label (.ok outcome)) (page.settle id)
        { requests := if Board.changesTables label outcome then [.refreshNow] else []
          notice := some (.info (label.resultTitle ++ " finished")) }
  | openCreate {choices create} : page.pendingCreate = true → page.layers.dialog = none →
      CreateForm.new? c.kind choices c.infraImage = some create →
      Step c page (.choicesLoaded c.kind choices)
        ({ page with pendingCreate := false }.display (.create create)) {}
  | forgetCreate {choices} :
      Step c page (.choicesLoaded c.kind choices) { page with pendingCreate := false } {}

theorem Step.submits {c : Context} {page page' : Page} {event : Event} {output : Output}
    {kind : Kind} {id : OperationId} {operation : Operation}
    (hs : Step c page event page' output) (hr : .run kind id operation ∈ output.requests) :
    ∃ key rest, event = .key key ∧ page.Submits c.kind key operation rest ∧
      page' = rest.await c.nextId operation ∧
      kind = c.kind ∧ id = c.nextId ∧ output.requests = [.run kind id operation] := by
  cases hs with
  | @begin key _ rest hsub _ =>
    cases List.mem_singleton.mp hr
    exact ⟨key, rest, rfl, hsub, rfl, rfl, rfl, rfl⟩
  | closeStats _ _ | failStats _ _ | succeed _ | present _ _ | mention _ _ =>
    dsimp only at hr
    split at hr
    · cases List.mem_singleton.mp hr
    · cases hr
  | quit _ | requestCreate _ _ | openStats _ _ => cases List.mem_singleton.mp hr
  | _ => cases hr

end Page

end Deckhand
