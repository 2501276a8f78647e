import Deckhand.Proofs.Board.Handle

namespace Deckhand.Board

def viewOf (board : Board) (kind : Kind) : View := { board with active := kind }.view

/-- Two boards of which the same is seen, on whatever page. -/
structure LooksLike (board other : Board) : Prop where
  active : other.active = board.active
  tables : other.tables = board.tables
  cursor : ∀ kind, (other.page kind).cursor = (board.page kind).cursor
  layers : ∀ kind, (other.page kind).layers = (board.page kind).layers
  notification : other.notification = board.notification

def marks (board : Board) : Event → Bool
  | .key key => !key.isInterrupt
  | .resize _ _ | .listRefreshed _ | .listFailed _ _ | .finished _ _ _ _ => true
  | .statsUpdated kind id _ | .statsFailed kind id _ => (board.monitor? kind id).isSome
  | .choicesLoaded kind choices =>
    (board.page kind).pendingCreate && !(board.page kind).hasDialog &&
      (CreateForm.new? kind choices board.settings.infraImage).isSome

def handleAll (board : Board) (events : List Event) : Board :=
  events.foldl (fun board event => (board.handle event).board) board

variable {board other third : Board} {kind : Kind} {event : Event}

theorem LooksLike.refl (board : Board) : board.LooksLike board :=
  ⟨rfl, rfl, fun _ => rfl, fun _ => rfl, rfl⟩

theorem LooksLike.trans (h : board.LooksLike other) (h' : other.LooksLike third) :
    board.LooksLike third where
  active := h'.active.trans h.active
  tables := h'.tables.trans h.tables
  cursor kind := (h'.cursor kind).trans (h.cursor kind)
  layers kind := (h'.layers kind).trans (h.layers kind)
  notification := h'.notification.trans h.notification

theorem LooksLike.viewOf (h : board.LooksLike other) (kind : Kind) :
    other.viewOf kind = board.viewOf kind := by
  have hc : (other.pages.get kind).cursor = (board.pages.get kind).cursor := h.cursor kind
  have hl : (other.pages.get kind).layers = (board.pages.get kind).layers := h.layers kind
  simp only [Board.viewOf, view, activePage, page, rows, h.tables, h.notification, hc, hl]

theorem LooksLike.view (h : board.LooksLike other) : other.view = board.view := calc
  other.view = other.viewOf other.active := rfl
  _ = board.viewOf other.active := h.viewOf other.active
  _ = board.viewOf board.active := by rw [h.active]
  _ = board.view := rfl

theorem LooksLike.modifyPage (board : Board) (kind : Kind) {f : Page → Page}
    (hc : ∀ page, (f page).cursor = page.cursor) (hl : ∀ page, (f page).layers = page.layers) :
    board.LooksLike (board.modifyPage kind f) := by
  have hpage (other : Kind) : ((board.modifyPage kind f).page other).cursor =
      (board.page other).cursor ∧
        ((board.modifyPage kind f).page other).layers = (board.page other).layers := by
    by_cases ho : other = kind
    · subst ho
      rw [page_modifyPage_self]
      exact ⟨hc _, hl _⟩
    · rw [page_modifyPage_of_ne board f ho]
      exact ⟨rfl, rfl⟩
  exact ⟨rfl, rfl, fun other => (hpage other).1, fun other => (hpage other).2, rfl⟩

theorem dirty_begin (board : Board) (kind : Kind) (operation : Operation) :
    (board.begin kind operation).board.dirty = true := by
  unfold begin
  dsimp only
  split <;> rfl

theorem dirty_submitText (board : Board) (kind : Kind) (purpose : Purpose) (value : String)
    (target : Option Ref) : (board.submitText kind purpose value target).board.dirty = true := by
  unfold submitText
  dsimp only
  split
  · rfl
  · exact dirty_begin _ kind _

section

-- A key marks the board before it goes anywhere, and nothing on its way takes the mark away.
variable (h : board.dirty = true)

include h

theorem dirty_runCommand (kind : Kind) (name : String) :
    (board.runCommand kind name).board.dirty = true := by
  unfold runCommand
  split
  · exact h
  · dsimp only
    split <;> rfl

theorem dirty_acceptConfirmation (kind : Kind) :
    (board.acceptConfirmation kind).board.dirty = true := by
  unfold acceptConfirmation
  cases (board.page kind).confirmation with
  | none => exact h
  | some confirmation =>
    dsimp only
    cases confirmedOperation? kind confirmation with
    | none => exact h
    | some operation => exact dirty_begin _ kind operation

theorem dirty_submitCreate (kind : Kind) : (board.submitCreate kind).board.dirty = true := by
  unfold submitCreate
  split
  · split
    · exact dirty_begin _ kind _
    · rfl
  · exact h

theorem dirty_pickerKey (kind : Kind) (picker : Picker) (key : Key) :
    (board.pickerKey kind picker key).board.dirty = true := by
  unfold pickerKey
  cases key.code with
  | enter =>
    cases picker.selected? with
    | none => exact h
    | some command => exact dirty_runCommand h kind command.name
  | _ => exact h

theorem dirty_promptKey (kind : Kind) (prompt : Prompt) (key : Key) :
    (board.promptKey kind prompt key).board.dirty = true := by
  unfold promptKey
  cases key.code with
  | enter => exact dirty_submitText board kind _ _ _
  | _ => exact h

theorem dirty_pagerKey (kind : Kind) (key : Key) :
    (board.pagerKey kind key).board.dirty = true := by
  unfold pagerKey
  cases key.code <;> exact h

theorem dirty_confirmKey (kind : Kind) (confirm : Confirm) (key : Key) :
    (board.confirmKey kind confirm key).board.dirty = true := by
  unfold confirmKey
  cases key.code with
  | enter =>
    dsimp only
    split
    · exact dirty_acceptConfirmation h kind
    · rfl
  | escape => rfl
  | _ => exact h

theorem dirty_createKey (kind : Kind) (create : CreateForm) (key : Key) :
    (board.createKey kind create key).board.dirty = true := by
  unfold createKey
  rcases create.form.handleKey key with ⟨form, event⟩
  cases event with
  | none => exact h
  | cancel => exact h
  | submit =>
    refine dirty_submitCreate ?_ kind
    exact h

theorem dirty_listingKey (kind : Kind) (listing : Listing) (key : Key) :
    (board.listingKey kind listing key).board.dirty = true := by
  unfold listingKey
  cases key.code with
  | enter =>
    dsimp only
    split
    · exact dirty_begin _ kind _
    · exact h
  | _ => exact h

theorem dirty_statsKey (kind : Kind) (key : Key) :
    (board.statsKey kind key).board.dirty = true := by
  unfold statsKey
  cases key.code with
  | enter | escape => rfl
  | _ => exact h

theorem dirty_progressKey (key : Key) : (board.progressKey key).dirty = true := by
  unfold progressKey
  split <;> exact h

theorem dirty_dialogKey (dialog : Dialog) (key : Key) :
    (board.dialogKey dialog key).board.dirty = true := by
  unfold dialogKey
  dsimp only
  split
  · exact h
  split
  · exact h
  cases dialog with
  | commands picker => exact dirty_pickerKey h _ picker key
  | input prompt => exact dirty_promptKey h _ prompt key
  | message pager => exact dirty_pagerKey h _ key
  | confirm confirm => exact dirty_confirmKey h _ confirm key
  | create create => exact dirty_createKey h _ create key
  | table listing => exact dirty_listingKey h _ listing key
  | stats monitor => exact dirty_statsKey h _ key
  | progress progress => exact dirty_progressKey h key

theorem dirty_tableKey (key : Key) : (board.tableKey key).board.dirty = true := by
  unfold tableKey
  dsimp only
  split
  · exact h
  split
  · exact h
  split
  · exact h
  split <;> exact h

theorem dirty_errorKey (key : Key) : (board.errorKey key).dirty = true := by
  unfold errorKey
  cases key.code <;> exact h

theorem dirty_routeKey (key : Key) : (board.routeKey key).board.dirty = true := by
  unfold routeKey
  dsimp only
  split
  · exact dirty_errorKey h key
  · exact dirty_dialogKey h _ key
  · exact dirty_tableKey h key

end

theorem dirty_handleKey (board : Board) (key : Key) :
    (board.handleKey key).board.dirty = (board.dirty || !key.isInterrupt) := by
  unfold handleKey
  cases hi : key.isInterrupt with
  | true => exact (Bool.or_false _).symm
  | false =>
    rw [Bool.not_false, Bool.or_true]
    exact dirty_routeKey rfl key

theorem dirty_present (board : Board) (kind : Kind) (label : Label) (outcome : Outcome) :
    (board.present kind label outcome).board.dirty = board.dirty := by
  unfold present
  dsimp only
  split
  · rfl
  · split <;> rfl

theorem dirty_finish (board : Board) (kind : Kind) (id : OperationId) (label : Label)
    (result : Except Failure Outcome) :
    (board.finish kind id label result).board.dirty = true := by
  unfold finish
  dsimp only
  split
  · rfl
  · exact dirty_present _ kind label _

theorem dirty_updateStats (board : Board) (kind : Kind) (id : OperationId) (report : Report) :
    (board.updateStats kind id report).dirty = (board.dirty || (board.monitor? kind id).isSome) := by
  unfold updateStats
  cases board.monitor? kind id with
  | none => exact (Bool.or_false _).symm
  | some monitor => exact (Bool.or_true _).symm

theorem dirty_failStats (board : Board) (kind : Kind) (id : OperationId) (error : String) :
    (board.failStats kind id error).board.dirty =
      (board.dirty || (board.monitor? kind id).isSome) := by
  unfold failStats
  cases board.monitor? kind id with
  | none => exact (Bool.or_false _).symm
  | some monitor => exact (Bool.or_true _).symm

theorem dirty_openCreate (board : Board) (kind : Kind) (choices : Choices) :
    (board.openCreate kind choices).dirty =
      (board.dirty || board.marks (.choicesLoaded kind choices)) := by
  unfold openCreate marks
  dsimp only
  cases (board.page kind).pendingCreate && !(board.page kind).hasDialog with
  | false => exact (Bool.or_false _).symm
  | true =>
    have hs : (board.modifyPage kind ({ · with pendingCreate := false })).settings =
      board.settings := rfl
    rw [hs]
    cases CreateForm.new? kind choices board.settings.infraImage with
    | none => exact (Bool.or_false _).symm
    | some form => exact (Bool.or_true _).symm

theorem dirty_handle (board : Board) (event : Event) :
    (board.handle event).board.dirty = (board.dirty || board.marks event) := by
  cases event with
  | key key => exact dirty_handleKey board key
  | resize width height => exact (Bool.or_true _).symm
  | listRefreshed kind => exact (Bool.or_true _).symm
  | listFailed kind error => exact (Bool.or_true _).symm
  | statsUpdated kind id report => exact dirty_updateStats board kind id report
  | statsFailed kind id error => exact dirty_failStats board kind id error
  | finished kind id label result =>
    exact (dirty_finish board kind id label result).trans (Bool.or_true _).symm
  | choicesLoaded kind choices => exact dirty_openCreate board kind choices

/-- An event without a mark is one that comes too late, or the key that quits. -/
theorem looksLike_handle (h : board.marks event = false) :
    board.LooksLike (board.handle event).board := by
  cases event with
  | key key =>
    have hi : key.isInterrupt = true := by simpa [marks] using h
    rw [handle, handleKey, hi]
    exact .refl board
  | statsUpdated kind id report =>
    have hm : board.monitor? kind id = none := by simpa [marks] using h
    rw [handle, updateStats, hm]
    exact .refl board
  | statsFailed kind id error =>
    have hm : board.monitor? kind id = none := by simpa [marks] using h
    rw [handle, failStats, hm]
    exact .refl board
  | choicesLoaded kind choices =>
    have hforget := LooksLike.modifyPage board kind (f := ({ · with pendingCreate := false }))
      (fun _ => rfl) (fun _ => rfl)
    rw [handle, openCreate]
    dsimp only [Reaction.quiet]
    split
    · rename_i hw
      rw [marks, hw, Bool.true_and] at h
      split
      · rename_i form hform
        have hnew : CreateForm.new? kind choices board.settings.infraImage = some form := hform
        rw [hnew] at h
        cases h
      · exact hforget
    · exact hforget
  | _ => cases h

theorem looksLike_of_not_dirty (h : (board.handle event).board.dirty = false) :
    board.LooksLike (board.handle event).board := by
  rw [dirty_handle, Bool.or_eq_false_iff] at h
  exact looksLike_handle h.2

theorem handleAll_cons (board : Board) (event : Event) (events : List Event) :
    board.handleAll (event :: events) = (board.handle event).board.handleAll events := rfl

theorem dirty_handleAll (events : List Event) (h : (board.handleAll events).dirty = false) :
    board.dirty = false ∧ board.LooksLike (board.handleAll events) := by
  induction events generalizing board with
  | nil => exact ⟨h, .refl board⟩
  | cons event events ih =>
    rw [handleAll_cons] at h ⊢
    obtain ⟨hd, hl⟩ := ih h
    have hsame := looksLike_of_not_dirty hd
    rw [dirty_handle, Bool.or_eq_false_iff] at hd
    exact ⟨hd.1, hsame.trans hl⟩

/-- In whatever state a board is: if it is not marked after an event, or after several, then nothing
that could be seen of it on any page has changed. -/
theorem no_change_is_unmarked (board : Board) :
    (∀ event, (board.handle event).board.dirty = false →
      board.LooksLike (board.handle event).board ∧
        ∀ kind, (board.handle event).board.viewOf kind = board.viewOf kind) ∧
    ∀ events, (board.handleAll events).dirty = false →
      board.LooksLike (board.handleAll events) ∧ (board.handleAll events).view = board.view := by
  constructor
  · intro event h
    have hl := looksLike_of_not_dirty h
    exact ⟨hl, hl.viewOf⟩
  · intro events h
    have hl := (dirty_handleAll events h).2
    exact ⟨hl, hl.view⟩

def watching : Board :=
  { (Board.new {} .empty).modifyPage .containers fun page =>
      { page.display (.stats ⟨.containers, ⟨2⟩, ["5e"], none⟩) with pendingCreate := true } with
    dirty := false }

theorem late_messages_are_not_seen :
    (watching.handleAll [.statsUpdated .containers ⟨1⟩ ⟨["ID"], [["7c"]]⟩,
      .choicesLoaded .containers {}, .statsFailed .pods ⟨2⟩ "gone"]).view = watching.view :=
  ((no_change_is_unmarked watching).2 _ rfl).2

example : (watching.handle (.statsUpdated .containers ⟨2⟩ ⟨["ID"], [["5e"]]⟩)).board.dirty = true :=
  rfl

end Deckhand.Board
