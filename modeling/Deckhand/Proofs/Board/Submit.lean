import Deckhand.Proofs.Board.Sound

namespace Deckhand

namespace Command

theorem find?_of_mem (kind : Kind) (command : Command) (h : command ∈ catalog kind) :
    find? kind command.name = some command := by
  revert command
  cases kind <;> decide +kernel

theorem mem_of_find? {kind : Kind} {name : String} {command : Command}
    (h : find? kind name = some command) : command ∈ catalog kind :=
  List.mem_of_find?_eq_some h

end Command

theorem Form.code_of_handleKey_submit {form form' : Form} {key : Key}
    (h : form.handleKey key = (form', .submit)) : key.code = .enter := by
  unfold handleKey at h
  split at h
  · cases h
  · cases h
  · cases h
  · split at h
    · cases h
    · unfold buttonKey at h
      split at h
      · cases h
      · cases h
      · assumption
      · cases h
    · cases h

section

variable {key : Key} (hk : key.code = .enter)

include hk

theorem Key.isInterrupt_of_enter : key.isInterrupt = false := by simp [isInterrupt, hk]

theorem Key.isDown_of_enter : key.isDown = false := by simp [isDown, hk]

theorem Key.isUp_of_enter : key.isUp = false := by simp [isUp, hk]

end

namespace Board

variable {board : Board} {kind : Kind} {key : Key} {dialog : Dialog}

@[simp] theorem page_touch (board : Board) (kind : Kind) :
    board.touch.page kind = board.page kind := rfl

theorem handle_key (board : Board) (hi : key.isInterrupt = false) :
    board.handle (.key key) = (board.heard (.key key)).routeKey key := by
  simp [handle, handleKey, heard, hi]

theorem activePage_heard (board : Board) (event : Event) :
    (board.heard event).activePage = board.activePage := by
  unfold activePage
  rw [active_heard, page_heard]

theorem handle_of_faces (hi : key.isInterrupt = false) (hf : board.activePage.Faces dialog) :
    board.handle (.key key) = (board.heard (.key key)).dialogKey dialog key := by
  rw [handle_key board hi, routeKey, activePage_heard, hf.1, hf.2]

theorem handle_enter (hk : key.code = .enter) (hf : board.activePage.Faces dialog) :
    board.handle (.key key) = (board.heard (.key key)).dialogKey dialog key :=
  handle_of_faces (Key.isInterrupt_of_enter hk) hf

theorem handle_choose {picker : Picker} {command : Command} (hk : key.code = .enter)
    (hf : board.activePage.Faces (.commands picker)) (hc : picker.selected? = some command) :
    board.handle (.key key) = (board.heard (.key key)).runCommand board.active command.name := by
  rw [handle_enter hk hf, dialogKey]
  simp only [Key.isDown_of_enter hk, Key.isUp_of_enter hk, Bool.and_false, Bool.false_eq_true,
    if_false, active_heard, pickerKey, hk, hc]

theorem runCommand_of_find? {name : String} {command : Command}
    (hn : Command.find? kind name = some command) :
    board.runCommand kind name =
      let board' := board.modifyPage kind (·.hide .commands)
      if command.needsSelection && (board.page kind).selection.isNone then
        board'.showError kind none (.nothingSelected (command.missingSelection kind))
      else
        (board'.act kind (board.page kind).selection command.action).andThen (.quiet ·.touch) := by
  have hs : ((board.modifyPage kind (·.hide .commands)).page kind).selection =
      (board.page kind).selection := by
    rw [page_modifyPage_self]
    rfl
  unfold runCommand
  simp only [hn, hs]

/-- What is handed in comes to the page that it was handed in on, without the dialog. -/
theorem handle_submits {operation : Operation} {rest : Page}
    (hs : board.activePage.Submits board.active key operation rest) :
    ∃ f, f board.activePage = rest ∧ board.handle (.key key) =
      ((board.heard (.key key)).modifyPage board.active f).begin board.active operation := by
  cases hs with
  | @command command verb target hp ha ht =>
    obtain ⟨hk, picker, chosen, hf, hc, hn, -⟩ := hp
    have ht' : ((board.heard (.key key)).page board.active).selection = some target := by
      rw [page_heard]
      exact ht
    refine ⟨(·.hide .commands), Page.hide_eq_clear .commands hf.2 rfl, ?_⟩
    rw [handle_choose hk hf hc, runCommand_of_find? hn]
    simp only [ht', Option.isNone_some, Bool.and_false, Bool.false_eq_true, if_false, ha, act,
      begin_touch]
  | @accept confirm confirmation operation hk hf hfocus hc ho =>
    have hc' : ((board.heard (.key key)).page board.active).confirmation = some confirmation := by
      rw [page_heard]
      exact hc
    refine ⟨fun page => { page.hide .confirm with confirmation := none }, ?_, ?_⟩
    · simp only [Page.hide_eq_clear .confirm hf.2 rfl]
    · rw [handle_enter hk hf, dialogKey]
      simp only [Dialog.hasLines, Bool.false_and, Bool.false_eq_true, if_false, active_heard,
        confirmKey, hk, hfocus, if_true, acceptConfirmation, hc', ho]
  | @text prompt hk hf ht =>
    refine ⟨(·.hide .input), Page.hide_eq_clear .input hf.2 rfl, ?_⟩
    rw [handle_enter hk hf, dialogKey]
    simp only [Dialog.hasLines, Bool.false_and, Bool.false_eq_true, if_false, active_heard,
      promptKey, hk, submitText, ht, touch_begin]
  | @form create form spec hf hk hspec =>
    refine ⟨fun page => (page.display (.create { create with form })).hide .create, ?_, ?_⟩
    · exact Page.hide_eq_clear .create (Page.dialog_display _ (.create { create with form })) rfl
    · rw [handle_enter (Form.code_of_handleKey_submit hk) hf, dialogKey]
      simp only [Dialog.hasLines, Bool.false_and, Bool.false_eq_true, if_false, active_heard,
        createKey, hk, submitCreate, page_modifyPage_self, Page.layers_display, hspec,
        modifyPage_modifyPage]
  | @hit listing image hk hf hu hi =>
    refine ⟨(·.hide .table), Page.hide_eq_clear .table hf.2 rfl, ?_⟩
    rw [handle_enter hk hf, dialogKey]
    simp only [Key.isDown_of_enter hk, Key.isUp_of_enter hk, Bool.and_false, Bool.false_eq_true,
      if_false, active_heard, listingKey, hk, hu, hi, pullImage]

theorem requests_of_submits {operation : Operation} {rest : Page}
    (hs : board.activePage.Submits board.active key operation rest) (hr : rest.inFlight = none) :
    (board.handle (.key key)).requests = [.run board.active ⟨board.nextId⟩ operation] := by
  obtain ⟨f, hf, he⟩ := handle_submits hs
  have hp : (((board.heard (.key key)).modifyPage board.active f).page board.active).inFlight =
      none := by
    rw [page_modifyPage_self, page_heard, ← hr, ← hf]
    rfl
  have hid : ((board.heard (.key key)).modifyPage board.active f).nextId = board.nextId :=
    nextId_heard board (.key key)
  rw [he, begin]
  simp only [hp, issueId, hid]

end Board

end Deckhand
