import Deckhand.Proofs.Board.Handle

namespace Deckhand

def Event.isBackground : Event → Bool
  | .key _ | .resize _ _ => false
  | .listRefreshed _ | .listFailed _ _ | .statsUpdated _ _ _ | .statsFailed _ _ _
  | .finished _ _ _ _ | .choicesLoaded _ _ => true

/-- A dialog that the user reads, fills in or chooses from. -/
def Dialog.isForUser : Dialog → Bool
  | commands _ | input _ | message _ | confirm _ | create _ | table _ => true
  | stats _ | progress _ => false

namespace Page

structure Respected (kind : Kind) (infraImage : String) (event : Event) (page page' : Page) :
    Prop where
  confirmation : page'.confirmation = page.confirmation
  forUser : ∀ dialog, page.layers.dialog = some dialog → dialog.isForUser = true →
    page'.layers.dialog = some dialog
  progress : ∀ progress, page.layers.dialog = some (.progress progress) →
    page'.layers.dialog = some (.progress progress) ∨
      ∃ label result, event = .finished kind progress.id label result
  stats : ∀ monitor, page.layers.dialog = some (.stats monitor) →
    page'.layers.dialog = some (.stats monitor) ∨
      (∃ report, event = .statsUpdated kind monitor.id report ∧
        page'.layers.dialog = some (.stats { monitor with report := some report })) ∨
      ∃ error, event = .statsFailed kind monitor.id error ∧ page'.layers.dialog = none
  opened : ∀ dialog, page.layers.dialog = none → page'.layers.dialog = some dialog →
    (∃ id label outcome, event = .finished kind id label (.ok outcome) ∧
      Board.resultDialog? kind label outcome = some dialog) ∨
      ∃ choices create, event = .choicesLoaded kind choices ∧ page.pendingCreate = true ∧
        CreateForm.new? kind choices infraImage = some create ∧ dialog = .create create
  inFlight : page'.inFlight = page.inFlight ∨
    ∃ id label result, page.inFlight = some id ∧ event = .finished kind id label result ∧
      page'.inFlight = none

variable {c : Context} {kind : Kind} {infraImage : String} {page page' : Page} {event : Event}
variable {output : Output} {id : OperationId} {label : Label} {result : Except Failure Outcome}

theorem Respected.of_same (hd : page'.layers.dialog = page.layers.dialog)
    (hi : page'.inFlight = page.inFlight) (hc : page'.confirmation = page.confirmation) :
    Respected kind infraImage event page page' where
  confirmation := hc
  forUser _ h _ := hd.trans h
  progress _ h := .inl (hd.trans h)
  stats _ h := .inl (hd.trans h)
  opened _ h h' := by
    rw [hd, h] at h'
    cases h'
  inFlight := .inl hi

theorem dialog_settle (page : Page) (id : OperationId) :
    (page.settle id).layers.dialog = page.layers.dialog ∨
      ∃ progress, page.layers.dialog = some (.progress progress) ∧ progress.id = id ∧
        (page.settle id).layers.dialog = none := by
  unfold settle Layers.hideProgress
  dsimp only
  split
  · rename_i hs
    right
    unfold Layers.showsProgress at hs
    split at hs
    · rename_i progress hd
      exact ⟨progress, hd, of_decide_eq_true hs, rfl⟩
    · cases hs
  · exact .inl rfl

/-- The end of an operation takes away the progress of just this operation, and it shows its result
only over a bare table. -/
theorem Respected.of_settle (hc : page'.confirmation = page.confirmation)
    (hi : page'.inFlight = (page.settle id).inFlight)
    (hd : page'.layers.dialog = (page.settle id).layers.dialog ∨
      (page.settle id).layers.dialog = none ∧ ∃ outcome, result = .ok outcome ∧
        Board.resultDialog? kind label outcome = page'.layers.dialog) :
    Respected kind infraImage (.finished kind id label result) page page' := by
  -- What stays over the table keeps the result from being shown.
  have hkeep (dialog : Dialog) (hs : (page.settle id).layers.dialog = some dialog) :
      page'.layers.dialog = some dialog := by
    obtain hd | ⟨hnone, -⟩ := hd
    · exact hd.trans hs
    · cases hnone.symm.trans hs
  constructor
  · exact hc
  · intro dialog hdialog hu
    obtain hsame | ⟨progress, hp, -⟩ := page.dialog_settle id
    · exact hkeep dialog (hsame.trans hdialog)
    · cases hdialog.symm.trans hp
      cases hu
  · intro progress hdialog
    obtain hsame | ⟨other, hp, rfl, -⟩ := page.dialog_settle id
    · exact .inl (hkeep _ (hsame.trans hdialog))
    · cases hdialog.symm.trans hp
      exact .inr ⟨label, result, rfl⟩
  · intro monitor hdialog
    obtain hsame | ⟨progress, hp, -⟩ := page.dialog_settle id
    · exact .inl (hkeep _ (hsame.trans hdialog))
    · cases hdialog.symm.trans hp
  · intro dialog hnone hdialog
    obtain hsame | ⟨progress, hp, -⟩ := page.dialog_settle id
    · obtain hd | ⟨-, outcome, rfl, hr⟩ := hd
      · cases (hd.trans (hsame.trans hnone)).symm.trans hdialog
      · exact .inl ⟨id, label, outcome, rfl, hr.trans hdialog⟩
    · cases hnone.symm.trans hp
  · rw [hi]
    by_cases hid : page.inFlight = some id
    · exact .inr ⟨id, label, result, hid, rfl, by simp [settle, hid]⟩
    · exact .inl (by simp [settle, hid])

theorem Respected.of_stats {monitor : Monitor} (hd : page.layers.dialog = some (.stats monitor))
    (hc : page'.confirmation = page.confirmation) (hi : page'.inFlight = page.inFlight)
    (hs : (∃ report, event = .statsUpdated kind monitor.id report ∧
        page'.layers.dialog = some (.stats { monitor with report := some report })) ∨
      ∃ error, event = .statsFailed kind monitor.id error ∧ page'.layers.dialog = none) :
    Respected kind infraImage event page page' := by
  constructor
  · exact hc
  · intro dialog hdialog hu
    cases hd.symm.trans hdialog
    cases hu
  · intro progress hp
    cases hd.symm.trans hp
  · intro shown hshown
    cases hd.symm.trans hshown
    exact .inr hs
  · intro dialog hnone _
    cases hd.symm.trans hnone
  · exact .inl hi

theorem Step.respected (hs : Step c page event page' output) (hb : event.isBackground = true) :
    Respected c.kind c.infraImage event page page' := by
  cases hs with
  | refresh | refuseList | missSample _ | missFailure _ | forgetCreate => exact .of_same rfl rfl rfl
  | sample hd hid =>
    subst hid
    exact .of_stats hd rfl rfl (.inl ⟨_, rfl, rfl⟩)
  | failStats hd hid =>
    subst hid
    exact .of_stats hd rfl rfl (.inr ⟨_, rfl, rfl⟩)
  | fail | succeed _ | mention _ _ => exact .of_settle rfl rfl (.inl rfl)
  | present hr hn => exact .of_settle rfl rfl (.inr ⟨hn, _, rfl, hr⟩)
  | @openCreate choices create hp hn hform =>
    constructor
    · rfl
    · intro dialog hdialog _
      cases hn.symm.trans hdialog
    · intro progress hdialog
      cases hn.symm.trans hdialog
    · intro monitor hdialog
      cases hn.symm.trans hdialog
    · intro dialog _ hdialog
      cases hdialog
      exact .inr ⟨choices, create, rfl, hp, hform, rfl⟩
    · exact .inl rfl
  | _ => cases hb

end Page

namespace Board

/-- In whatever state a board is, and whatever a message from the background says: a dialog that the
user is at stays as it is, and so does the question that is asked. Progress and figures give way to
their own operation and sampler only, and a dialog is opened over a bare table only. -/
theorem page_respected_by_background (board : Board) (event : Event)
    (hb : event.isBackground = true) (kind : Kind) :
    (board.page kind).Respected kind board.settings.infraImage event
      ((board.handle event).board.page kind) := by
  by_cases ha : board.addressee event = some kind
  · obtain ⟨notice, hs, -⟩ := handle_step ha
    exact hs.respected hb
  · obtain he | ⟨⟨key, rfl⟩, -⟩ := handle_page_of_ne ha
    · rw [he]
      exact .of_same rfl rfl rfl
    · cases hb

def typingName : Board :=
  (Board.new {} .empty).modifyPage .containers
    (·.display (.input ⟨.rename, some ⟨"5e", "web"⟩, "we"⟩))

theorem typed_name_survives_result :
    ((typingName.handle (.finished .containers ⟨3⟩ ⟨.containers, "logs", some "5e"⟩
      (.ok (.text "ready")))).board.page .containers).layers.dialog =
      some (.input ⟨.rename, some ⟨"5e", "web"⟩, "we"⟩) :=
  (page_respected_by_background typingName _ rfl .containers).forUser _ rfl rfl

end Board

end Deckhand
