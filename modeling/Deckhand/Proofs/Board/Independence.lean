import Deckhand.Proofs.Board.Background

namespace Deckhand.Board

def unnotified (board : Board) : Board := { board with notification := none }

/-- Two boards that are the same as far as a message for the page of `kind` can tell. -/
structure Alike (kind : Kind) (board other : Board) : Prop where
  page : other.page kind = board.page kind
  rows : other.rows kind = board.rows kind
  settings : other.settings = board.settings

structure ReactsAlike (kind : Kind) (board other : Board) (reaction reaction' : Reaction) :
    Prop where
  page : reaction'.board.page kind = reaction.board.page kind
  requests : reaction'.requests = reaction.requests
  journal : reaction'.journal = reaction.journal
  dirty : ∃ touched, reaction.board.dirty = (board.dirty || touched) ∧
    reaction'.board.dirty = (other.dirty || touched)

variable {board other : Board} {kind : Kind} {first second event : Event}

theorem unnotified_eq (hp : ∀ kind, board.page kind = other.page kind)
    (ha : board.active = other.active) (ht : board.tables = other.tables)
    (hd : board.dirty = other.dirty) (hs : board.settings = other.settings)
    (hn : board.nextId = other.nextId) : board.unnotified = other.unnotified := by
  have hpages : board.pages = other.pages := PerKind.ext_get hp
  simp only [unnotified, hpages, ha, ht, hd, hs, hn]

theorem ReactsAlike.of_dirty {board' other' : Board} {reaction reaction' : Reaction}
    (h : ReactsAlike kind board' other' reaction reaction') (hd : board'.dirty = true)
    (hd' : other'.dirty = true) : ReactsAlike kind board other reaction reaction' := by
  obtain ⟨touched, ht, ht'⟩ := h.dirty
  rw [hd, Bool.true_or] at ht
  rw [hd', Bool.true_or] at ht'
  exact ⟨h.page, h.requests, h.journal, true, by rw [ht, Bool.or_true], by rw [ht', Bool.or_true]⟩

namespace Alike

theorem monitor? (h : board.Alike kind other) (id : OperationId) :
    other.monitor? kind id = board.monitor? kind id := by
  simp only [Board.monitor?, h.page]

theorem reacts (h : board.Alike kind other) {reaction reaction' : Reaction} (f : Page → Page)
    (touched : Bool) (hp : reaction.board.page kind = f (board.page kind))
    (hp' : reaction'.board.page kind = f (other.page kind))
    (hd : reaction.board.dirty = (board.dirty || touched))
    (hd' : reaction'.board.dirty = (other.dirty || touched))
    (hr : reaction'.requests = reaction.requests) (hj : reaction'.journal = reaction.journal) :
    ReactsAlike kind board other reaction reaction' where
  page := by rw [hp, hp', h.page]
  requests := hr
  journal := hj
  dirty := ⟨touched, hd, hd'⟩

theorem quiet (h : board.Alike kind other) :
    ReactsAlike kind board other (.quiet board) (.quiet other) :=
  h.reacts (fun page => page) false rfl rfl (Bool.or_false _).symm (Bool.or_false _).symm rfl rfl

theorem refresh (h : board.Alike kind other) :
    ReactsAlike kind board other (board.handle (.listRefreshed kind))
      (other.handle (.listRefreshed kind)) := by
  apply h.reacts (·.reconcile (board.rows kind)) true
  · exact page_modifyPage_self board kind _
  · rw [← h.rows]
    exact page_modifyPage_self other kind _
  · exact (Bool.or_true _).symm
  · exact (Bool.or_true _).symm
  · rfl
  · rfl

theorem updateStats (h : board.Alike kind other) (id : OperationId) (report : Report) :
    ReactsAlike kind board other (board.handle (.statsUpdated kind id report))
      (other.handle (.statsUpdated kind id report)) := by
  have hm := h.monitor? id
  cases hs : board.monitor? kind id with
  | none =>
    rw [hs] at hm
    simp only [handle, Board.updateStats, hs, hm]
    exact h.quiet
  | some monitor =>
    rw [hs] at hm
    simp only [handle, Board.updateStats, hs, hm]
    exact h.reacts (·.display (.stats { monitor with report := some report })) true
      (page_modifyPage_self board kind _) (page_modifyPage_self other kind _)
      (Bool.or_true _).symm (Bool.or_true _).symm rfl rfl

theorem refuseList (h : board.Alike kind other) (error : String) :
    ReactsAlike kind board other (board.handle (.listFailed kind error))
      (other.handle (.listFailed kind error)) :=
  h.reacts (fun page => page) true rfl rfl (Bool.or_true _).symm (Bool.or_true _).symm rfl rfl

theorem failStats (h : board.Alike kind other) (id : OperationId) (error : String) :
    ReactsAlike kind board other (board.handle (.statsFailed kind id error))
      (other.handle (.statsFailed kind id error)) := by
  have hm := h.monitor? id
  cases hs : board.monitor? kind id with
  | none =>
    rw [hs] at hm
    simp only [handle, Board.failStats, hs, hm]
    exact h.quiet
  | some monitor =>
    rw [hs] at hm
    have hlive : (other.closeStats kind).requests = (board.closeStats kind).requests := by
      simp only [closeStats, h.page]
    have hclosed (board : Board) : (((board.closeStats kind).board.showError kind
        (some (Text.upper kind.noun ++ " STATS ERROR")) (.host error)).board).page kind =
        ({ (board.page kind).hide .stats with live := false } : Page).showError
          ⟨some (Text.upper kind.noun ++ " STATS ERROR"), error⟩ := by
      cases kind <;> rfl
    simp only [handle, Board.failStats, hs, hm, Reaction.andThen]
    apply h.reacts (fun page => ({ page.hide .stats with live := false } : Page).showError
      ⟨some (Text.upper kind.noun ++ " STATS ERROR"), error⟩) true
    · exact hclosed board
    · exact hclosed other
    · exact (Bool.or_true _).symm
    · exact (Bool.or_true _).symm
    · rw [hlive]
      rfl
    · rfl

theorem present (h : board.Alike kind other) (label : Label) (outcome : Outcome) :
    ReactsAlike kind board other (board.present kind label outcome)
      (other.present kind label outcome) := by
  have hopen : (other.page kind).hasDialog = (board.page kind).hasDialog := by rw [h.page]
  cases hr : resultDialog? kind label outcome with
  | none =>
    simp only [Board.present, hr]
    exact h.reacts (fun page => page) false rfl rfl (Bool.or_false _).symm (Bool.or_false _).symm
      rfl rfl
  | some dialog =>
    cases ho : (board.page kind).hasDialog with
    | true =>
      rw [ho] at hopen
      simp only [Board.present, hr, ho, hopen, if_true]
      exact h.reacts (fun page => page) false rfl rfl (Bool.or_false _).symm
        (Bool.or_false _).symm rfl rfl
    | false =>
      rw [ho] at hopen
      simp only [Board.present, hr, ho, hopen, Bool.false_eq_true, if_false]
      exact h.reacts (·.display dialog) false (page_modifyPage_self board kind _)
        (page_modifyPage_self other kind _) (Bool.or_false _).symm (Bool.or_false _).symm rfl rfl

theorem modify (h : board.Alike kind other) (f : Page → Page) :
    (board.modifyPage kind f).touch.Alike kind (other.modifyPage kind f).touch where
  page := by
    have hf := (page_modifyPage_self other kind f).trans (congrArg f h.page)
    exact hf.trans (page_modifyPage_self board kind f).symm
  rows := h.rows
  settings := h.settings

theorem finish (h : board.Alike kind other) (id : OperationId) (label : Label)
    (result : Except Failure Outcome) :
    ReactsAlike kind board other (board.handle (.finished kind id label result))
      (other.handle (.finished kind id label result)) := by
  have hs := h.modify (·.settle id)
  cases result with
  | error failure =>
    apply h.reacts (fun page => (page.settle id).showError
      ⟨some label.errorTitle, failure.message⟩) true
    · cases kind <;> rfl
    · cases kind <;> rfl
    · exact (Bool.or_true _).symm
    · exact (Bool.or_true _).symm
    · rfl
    · rfl
  | ok outcome => exact (hs.present label outcome).of_dirty rfl rfl

theorem openCreate (h : board.Alike kind other) (choices : Choices) :
    ReactsAlike kind board other (board.handle (.choicesLoaded kind choices))
      (other.handle (.choicesLoaded kind choices)) := by
  have hforget : ReactsAlike kind board other
      (.quiet (board.modifyPage kind ({ · with pendingCreate := false })))
      (.quiet (other.modifyPage kind ({ · with pendingCreate := false }))) :=
    h.reacts ({ · with pendingCreate := false }) false (page_modifyPage_self board kind _)
      (page_modifyPage_self other kind _) (Bool.or_false _).symm (Bool.or_false _).symm rfl rfl
  have hsettings (board : Board) (f : Page → Page) :
      (board.modifyPage kind f).settings = board.settings := rfl
  simp only [handle, Board.openCreate, h.page, hsettings, h.settings]
  split
  · cases CreateForm.new? kind choices board.settings.infraImage with
    | none => exact hforget
    | some form =>
      apply h.reacts
        (fun page => ({ page with pendingCreate := false } : Page).display (.create form)) true
      · cases kind <;> rfl
      · cases kind <;> rfl
      · exact (Bool.or_true _).symm
      · exact (Bool.or_true _).symm
      · rfl
      · rfl
  · exact hforget

/-- What a message makes of its page, what it asks for and whether it has the board drawn anew
depends on nothing but what the page can tell. -/
theorem background (h : board.Alike kind other) (hb : event.isBackground = true)
    (ha : board.addressee event = some kind) :
    ReactsAlike kind board other (board.handle event) (other.handle event) := by
  cases event with
  | key _ | resize _ _ => cases hb
  | listRefreshed _ => cases ha; exact h.refresh
  | listFailed _ error => cases ha; exact h.refuseList error
  | statsUpdated _ id report => cases ha; exact h.updateStats id report
  | statsFailed _ id error => cases ha; exact h.failStats id error
  | finished _ id label result => cases ha; exact h.finish id label result
  | choicesLoaded _ choices => cases ha; exact h.openCreate choices

end Alike

theorem exists_addressee (hb : event.isBackground = true) :
    ∃ kind, ∀ board : Board, board.addressee event = some kind := by
  cases event with
  | key _ | resize _ _ => cases hb
  | listRefreshed kind | listFailed kind _ | statsUpdated kind _ _ | statsFailed kind _ _
  | finished kind _ _ _ | choicesLoaded kind _ => exact ⟨kind, fun _ => rfl⟩

theorem handle_settings (hb : event.isBackground = true) :
    (board.handle event).board.settings = board.settings := by
  obtain ⟨kind, ha⟩ := exists_addressee hb
  obtain ⟨key, -, rfl, -⟩ | hacts := handle_cases (ha board)
  · cases hb
  · rw [hacts.settings, settings_heard]

theorem handle_active_of_background (hb : event.isBackground = true) :
    (board.handle event).board.active = board.active := by
  obtain ha | ⟨key, rfl, -⟩ := handle_active board event
  · exact ha
  · cases hb

theorem handle_page_of_background (hb : event.isBackground = true)
    (ha : board.addressee event ≠ some kind) :
    (board.handle event).board.page kind = board.page kind := by
  obtain hp | ⟨⟨key, rfl⟩, -⟩ := handle_page_of_ne ha
  · exact hp
  · cases hb

theorem alike_handle (hb : event.isBackground = true) (ha : board.addressee event ≠ some kind) :
    board.Alike kind (board.handle event).board where
  page := handle_page_of_background hb ha
  rows := by rw [rows, handle_tables, rows]
  settings := handle_settings hb

theorem reactsAlike_of_background (h₁ : first.isBackground = true)
    (h₂ : second.isBackground = true) (hk : board.addressee second = some kind)
    (hne : board.addressee first ≠ some kind) :
    ReactsAlike kind board (board.handle first).board (board.handle second)
      ((board.handle first).board.handle second) :=
  (alike_handle h₁ hne).background h₂ hk

theorem page_handle_handle (h₁ : first.isBackground = true) (h₂ : second.isBackground = true)
    (hk : board.addressee second = some kind) (hne : board.addressee first ≠ some kind)
    (other : Kind) :
    ((board.handle first).board.handle second).board.page other =
      if other = kind then (board.handle second).board.page kind
      else (board.handle first).board.page other := by
  split
  · rename_i ho
    subst ho
    exact (reactsAlike_of_background h₁ h₂ hk hne).page
  · rename_i ho
    apply handle_page_of_background h₂
    obtain ⟨kind', hkind⟩ := exists_addressee h₂
    rw [hkind] at hk ⊢
    cases hk
    exact fun he => ho (Option.some.inj he).symm

theorem dirty_comm (h₁ : first.isBackground = true) (h₂ : second.isBackground = true)
    {kind₁ kind₂ : Kind} (hk₁ : board.addressee first = some kind₁)
    (hk₂ : board.addressee second = some kind₂) (hne : kind₁ ≠ kind₂) :
    ((board.handle first).board.handle second).board.dirty =
      ((board.handle second).board.handle first).board.dirty := by
  have hne₁ : board.addressee first ≠ some kind₂ := by simp [hk₁, hne]
  have hne₂ : board.addressee second ≠ some kind₁ := by simp [hk₂, hne.symm]
  obtain ⟨touched₁, hd₁, hd₁'⟩ := (reactsAlike_of_background h₂ h₁ hk₁ hne₂).dirty
  obtain ⟨touched₂, hd₂, hd₂'⟩ := (reactsAlike_of_background h₁ h₂ hk₂ hne₁).dirty
  rw [hd₁', hd₂', hd₁, hd₂, Bool.or_assoc, Bool.or_assoc, Bool.or_comm touched₁]

/-- Messages from the background for different pages are independent: in either order each asks for
the same, and they make the same board, but for the line in the status bar. A message changes no page
but its own. -/
theorem background_messages_commute (board : Board) (first second : Event)
    (h₁ : first.isBackground = true) (h₂ : second.isBackground = true)
    (hne : board.addressee first ≠ board.addressee second) :
    ((board.handle first).board.handle second).board.unnotified =
        ((board.handle second).board.handle first).board.unnotified ∧
      ((board.handle first).board.handle second).requests = (board.handle second).requests ∧
      ((board.handle second).board.handle first).requests = (board.handle first).requests ∧
      ∀ kind, board.addressee first ≠ some kind →
        (board.handle first).board.page kind = board.page kind := by
  obtain ⟨kind₁, hk₁⟩ := exists_addressee h₁
  obtain ⟨kind₂, hk₂⟩ := exists_addressee h₂
  rw [hk₁, hk₂] at hne
  have hne₁ : board.addressee first ≠ some kind₂ := by rwa [hk₁]
  have hne₂ : board.addressee second ≠ some kind₁ := by rw [hk₂]; exact hne.symm
  have hsecond := reactsAlike_of_background h₁ h₂ (hk₂ board) hne₁
  have hfirst := reactsAlike_of_background h₂ h₁ (hk₁ board) hne₂
  refine ⟨?_, hsecond.requests, hfirst.requests, fun kind => handle_page_of_background h₁⟩
  apply unnotified_eq
  · intro kind
    rw [page_handle_handle h₁ h₂ (hk₂ board) hne₁, page_handle_handle h₂ h₁ (hk₁ board) hne₂]
    by_cases hb₁ : kind = kind₁
    · subst hb₁
      rw [if_pos rfl, if_neg (fun he => hne (congrArg some he))]
    · rw [if_neg hb₁]
      by_cases hb₂ : kind = kind₂
      · rw [if_pos hb₂, hb₂]
      · rw [if_neg hb₂, handle_page_of_background h₁ (by rw [hk₁]; simp [Ne.symm hb₁]),
          handle_page_of_background h₂ (by rw [hk₂]; simp [Ne.symm hb₂])]
  · simp only [handle_active_of_background h₁, handle_active_of_background h₂]
  · simp only [handle_tables]
  · exact dirty_comm h₁ h₂ (hk₁ board) (hk₂ board) (fun he => hne (congrArg some he))
  · simp only [handle_settings h₁, handle_settings h₂]
  · simp only [handle_nextId, hsecond.requests, hfirst.requests]
    omega

def sampledAndStopping : Board :=
  ((Board.new {} .empty).modifyPage .containers fun page =>
    { page.display (.stats ⟨.containers, ⟨1⟩, ["5e"], none⟩) with live := true }).modifyPage .pods
    (·.await ⟨2⟩ (.target .pods .stop "7c"))

def lostFigures : Event := .statsFailed .containers ⟨1⟩ "no such container"

def stoppedPod : Event := .finished .pods ⟨2⟩ ⟨.pods, "stop", some "7c"⟩ (.ok .done)

theorem lost_figures_and_stopped_pod_commute :
    lostFigures.isBackground = true ∧ stoppedPod.isBackground = true ∧
      sampledAndStopping.addressee lostFigures ≠ sampledAndStopping.addressee stoppedPod ∧
      ((sampledAndStopping.handle lostFigures).board.handle stoppedPod).board.unnotified =
        ((sampledAndStopping.handle stoppedPod).board.handle lostFigures).board.unnotified ∧
      ((sampledAndStopping.handle lostFigures).board.handle stoppedPod).requests =
        [.refreshNow] ∧
      ((sampledAndStopping.handle stoppedPod).board.handle lostFigures).requests =
        [.stopLive .containers] := by
  have hne : sampledAndStopping.addressee lostFigures ≠ sampledAndStopping.addressee stoppedPod :=
    fun he => by cases he
  obtain ⟨hboard, hstopped, hlost, -⟩ :=
    background_messages_commute sampledAndStopping lostFigures stoppedPod rfl rfl hne
  exact ⟨rfl, rfl, hne, hboard, hstopped, hlost⟩

end Deckhand.Board
