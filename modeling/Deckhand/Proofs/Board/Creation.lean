import Deckhand.Proofs.Board.Errors
import Deckhand.Proofs.Create.Complete

namespace Deckhand

def Notice.ofForm (kind : Kind) (message : String) : Notice :=
  ⟨some (Text.upper kind.noun ++ " CREATE ERROR"), (Failure.invalid message).message⟩

namespace Board

variable {board : Board} {kind : Kind} {create : CreateForm} {spec : CreateSpec} {message : String}

/-- Nothing is asked for, and the form lies as it was under an error that can be dismissed. -/
structure Keeps (board : Board) (kind : Kind) (create : CreateForm) (message : String)
    (reaction : Reaction) : Prop where
  requests : reaction.requests = []
  page : reaction.board.page kind =
    { board.page kind with layers := ⟨some (.ofForm kind message), some (.create create)⟩ }
  others : ∀ other, other ≠ kind → reaction.board.page other = board.page other
  active : reaction.board.active = board.active
  dismissed : board.active = kind → ∀ key : Key, key.code = .enter ∨ key.code = .escape →
    (reaction.board.handle (.key key)).board.page kind =
      { board.page kind with layers := ⟨none, some (.create create)⟩ }

structure Creates (board : Board) (kind : Kind) (spec : CreateSpec) (reaction : Reaction) :
    Prop where
  requests : reaction.requests = [.run kind ⟨board.nextId⟩ (.create spec)]
  page : reaction.board.page kind = (board.page kind).await ⟨board.nextId⟩ (.create spec)
  others : ∀ other, other ≠ kind → reaction.board.page other = board.page other
  active : reaction.board.active = board.active

theorem page_dismissed {page : Page} {notice : Notice} {dialog : Dialog} {key : Key}
    (ha : board.active = kind)
    (hp : board.page kind = { page with layers := ⟨some notice, some dialog⟩ })
    (hk : key.code = .enter ∨ key.code = .escape) :
    (board.handle (.key key)).board.page kind =
      { page with layers := ⟨none, some dialog⟩ } := by
  subst ha
  have herror : board.activePage.layers.error.isSome = true := by
    rw [activePage, hp]
    rfl
  rw [page_handle_dismiss hk herror, activePage, hp]
  rfl

theorem submitCreate_keeps (hd : (board.page kind).layers.dialog = some (.create create))
    (hs : create.spec = .error (.invalid message)) :
    board.Keeps kind create message (board.submitCreate kind) := by
  have hr : board.submitCreate kind = board.showError kind
      (some (Text.upper kind.noun ++ " CREATE ERROR")) (.invalid message) := by
    rw [submitCreate, hd]
    simp only [hs]
  have hpage : (board.submitCreate kind).board.page kind =
      { board.page kind with layers := ⟨some (.ofForm kind message), some (.create create)⟩ } := by
    rw [hr, showError, page_touch, page_modifyPage_self, Page.showError, Layers.showError, hd]
    rfl
  have hactive : (board.submitCreate kind).board.active = board.active := by
    rw [hr]
    rfl
  refine ⟨by rw [hr, showError], hpage, fun other ho => ?_, hactive, fun ha key hk => ?_⟩
  · rw [hr, showError, page_touch, page_modifyPage_of_ne _ _ ho]
  · exact page_dismissed (hactive.trans ha) hpage hk

theorem begin_of_idle (operation : Operation) (hi : (board.page kind).inFlight = none) :
    board.begin kind operation =
      { board := { board.modifyPage kind (·.await ⟨board.nextId⟩ operation) with
          dirty := true
          nextId := board.nextId + 1 }
        requests := [.run kind ⟨board.nextId⟩ operation] } := by
  rw [begin]
  simp only [hi]
  rfl

theorem submitCreate_creates (hd : (board.page kind).layers.dialog = some (.create create))
    (hi : (board.page kind).inFlight = none) (hs : create.spec = .ok spec) :
    board.Creates kind spec (board.submitCreate kind) := by
  have hr : board.submitCreate kind =
      (board.modifyPage kind (·.hide .create)).begin kind (.create spec) := by
    rw [submitCreate, hd]
    simp only [hs]
  have hhide : (board.modifyPage kind (·.hide .create)).page kind = (board.page kind).clear := by
    rw [page_modifyPage_self]
    exact Page.hide_eq_clear .create hd rfl
  have hidle : ((board.modifyPage kind (·.hide .create)).page kind).inFlight = none := by
    rw [hhide]
    exact hi
  have hbegin := begin_of_idle (.create spec) hidle
  rw [hr, hbegin]
  refine ⟨rfl, ?_, fun other ho => ?_, rfl⟩
  · refine (page_modifyPage_self (board.modifyPage kind (·.hide .create)) kind _).trans ?_
    rw [hhide]
    rfl
  · refine (page_modifyPage_of_ne (board.modifyPage kind (·.hide .create)) _ ho).trans ?_
    exact page_modifyPage_of_ne board _ ho

/-- A form that keys led to is handed in. If it is complete, the resource is created, else the form
is kept. -/
theorem form_is_created_or_kept (hr : CreateForm.Reached kind create)
    (hd : (board.page kind).layers.dialog = some (.create create))
    (hi : (board.page kind).inFlight = none) :
    (create.Complete ∧ ∃ spec, create.spec = .ok spec ∧ spec.kind = kind ∧
      board.Creates kind spec (board.submitCreate kind)) ∨
    ¬ create.Complete ∧ ∃ message, create.spec = .error (.invalid message) ∧
      board.Keeps kind create message (board.submitCreate kind) := by
  -- Complete forms are those with a description, so the description decides.
  rw [← CreateForm.spec_eq_ok_iff hr]
  cases hs : create.spec with
  | ok spec =>
    have hkind := (CreateForm.specOf_eq_ok hs).1
    exact .inl ⟨⟨spec, rfl⟩, spec, rfl, hkind.trans hr.exists_new.1,
      submitCreate_creates hd hi hs⟩
  | error failure =>
    obtain ⟨message, rfl⟩ := CreateForm.onlyInvalid_specOf _ _ _ hs
    refine .inr ⟨?_, message, rfl, submitCreate_keeps hd hs⟩
    rintro ⟨spec, h⟩
    cases h

def mislabelled : CreateForm :=
  let form := CreateForm.volume
  let form := (form.handleKey { code := .down }).1
  let form := (form.handleKey { code := .char 'x' }).1
  ⟨.volumes, form⟩

def labelling : Board :=
  (Board.new {} .empty).modifyPage .volumes (·.display (.create mislabelled))

theorem mislabelled_form_is_kept :
    CreateForm.Reached .volumes mislabelled ∧
    (labelling.page .volumes).layers.dialog = some (.create mislabelled) ∧
    (labelling.page .volumes).inFlight = none ∧
    ∃ message, labelling.Keeps .volumes mislabelled message (labelling.submitCreate .volumes) := by
  have hr : CreateForm.Reached .volumes mislabelled := by
    refine .key ⟨.volumes, (CreateForm.volume.handleKey { code := .down }).1⟩ { code := .char 'x' } ?_
    exact .key ⟨.volumes, CreateForm.volume⟩ { code := .down } (.new {} "" _ rfl)
  have hd : (labelling.page .volumes).layers.dialog = some (.create mislabelled) := rfl
  have hi : (labelling.page .volumes).inFlight = none := rfl
  refine ⟨hr, hd, hi, ?_⟩
  obtain ⟨-, spec, hs, -⟩ | ⟨-, message, -, hkeeps⟩ := form_is_created_or_kept hr hd hi
  · have herror : mislabelled.spec =
        .error (.invalid "invalid label entry \"x\", expected key=value") := rfl
    cases herror.symm.trans hs
  · exact ⟨message, hkeeps⟩

end Board

end Deckhand
