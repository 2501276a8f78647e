import Deckhand.Proofs.Board.Step

namespace Deckhand

namespace Request

def isNumbered : Request → Bool
  | run _ _ _ | startLive _ _ _ => true
  | loadChoices _ | stopLive _ | refreshNow | quit => false

end Request

namespace Board

def context (board : Board) (kind : Kind) : Page.Context :=
  ⟨kind, board.rows kind, ⟨board.nextId⟩, board.settings.infraImage⟩

theorem modifyPage_modifyPage (board : Board) (kind : Kind) (f g : Page → Page) :
    (board.modifyPage kind f).modifyPage kind g =
      board.modifyPage kind (fun page => g (f page)) := by
  cases kind <;> rfl

/-- A reaction that concerns one page only, and there is a step for it. -/
structure Acts (board : Board) (event : Event) (kind : Kind) (reaction : Reaction) : Prop where
  step : ∃ notice, Page.Step (board.context kind) (board.page kind) event (reaction.board.page kind)
      ⟨reaction.requests, notice⟩ ∧
    reaction.board.notification = notice.or board.notification
  others : ∀ other, other ≠ kind → reaction.board.page other = board.page other
  active : reaction.board.active = board.active
  tables : reaction.board.tables = board.tables
  settings : reaction.board.settings = board.settings
  nextId : reaction.board.nextId =
    board.nextId + reaction.requests.countP Request.isNumbered

theorem Acts.of_step {board : Board} {event : Event} {kind : Kind} {reaction : Reaction}
    {requests : List Request} (f : Page → Page) (dirty : Bool) (notice : Option Notification)
    (hs : Page.Step (board.context kind) (board.page kind) event (f (board.page kind))
      ⟨requests, notice⟩)
    (hr : reaction.requests = requests)
    (hb : reaction.board = { board.modifyPage kind f with
      notification := notice.or board.notification
      dirty
      nextId := board.nextId + requests.countP Request.isNumbered }) :
    board.Acts event kind reaction := by
  have hp : reaction.board.page kind = f (board.page kind) := by
    rw [hb]; exact page_modifyPage_self board kind f
  subst hr
  refine ⟨⟨notice, hp ▸ hs, by rw [hb]⟩, ?_, by rw [hb]; rfl, by rw [hb]; rfl, by rw [hb]; rfl,
    by rw [hb]⟩
  intro other ho
  rw [hb]
  exact page_modifyPage_of_ne board f ho

theorem Acts.keep {board : Board} {event : Event} {kind : Kind} {journal : List Journal.Entry}
    (hs : Page.Step (board.context kind) (board.page kind) event (board.page kind) {}) :
    board.Acts event kind { board, journal } :=
  ⟨⟨none, hs, rfl⟩, fun _ _ => rfl, rfl, rfl, rfl, rfl⟩

theorem touch_begin (board : Board) (kind : Kind) (operation : Operation) :
    board.touch.begin kind operation = board.begin kind operation := by
  unfold begin
  cases h : (board.page kind).inFlight with
  | none =>
    have h' : (board.touch.page kind).inFlight = none := h
    simp only [h']
    rfl
  | some id =>
    have h' : (board.touch.page kind).inFlight = some id := h
    simp only [h']
    rfl

theorem begin_touch (board : Board) (kind : Kind) (operation : Operation) :
    (board.begin kind operation).andThen (.quiet ·.touch) = board.begin kind operation := by
  unfold begin
  cases h : (board.page kind).inFlight with
  | none => rfl
  | some id => rfl

theorem begin_acts {board : Board} {kind : Kind} {key : Key} {operation : Operation}
    {f : Page → Page}
    (h : Page.Submits kind key (board.page kind) operation (f (board.page kind))) :
    board.Acts (.key key) kind ((board.modifyPage kind f).begin kind operation) := by
  have hp := page_modifyPage_self board kind f
  cases hq : (f (board.page kind)).inFlight with
  | none =>
    have hb : (board.modifyPage kind f).begin kind operation =
        { board := (((board.modifyPage kind f).issueId.2).modifyPage kind
            (·.await ⟨board.nextId⟩ operation)).touch
          requests := [.run kind ⟨board.nextId⟩ operation] } := by
      simp only [begin, hp, hq]
      rfl
    rw [hb]
    refine Acts.of_step (fun page => (f page).await ⟨board.nextId⟩ operation) true none
      (.begin h hq) rfl ?_
    cases kind <;> rfl
  | some id =>
    have hb : (board.modifyPage kind f).begin kind operation = .quiet
        ((board.modifyPage kind f).notify (.info (kind.noun ++ " " ++ operation.verb ++
          " ignored: another " ++ kind.noun ++ " operation is in progress"))).touch := by
      simp only [begin, hp, hq]
      rfl
    rw [hb]
    exact Acts.of_step f true _ (.busy h hq) rfl rfl

theorem runCommand_acts {board : Board} {kind : Kind} {key : Key} {picker : Picker}
    {chosen : Command} (hk : key.code = .enter) (hf : (board.page kind).Faces (.commands picker))
    (hc : picker.selected? = some chosen) :
    board.Acts (.key key) kind (board.runCommand kind chosen.name) := by
  unfold runCommand
  cases hn : Command.find? kind chosen.name with
  | none => exact .keep .keep
  | some command =>
    have hh := Page.hide_eq_clear .commands hf.2 rfl
    have hp := page_modifyPage_self board kind (·.hide .commands)
    simp only [hp, hh]
    split
    · rename_i hm
      simp only [Bool.and_eq_true, Option.isNone_iff_eq_none] at hm
      refine Acts.of_step (fun page => (page.hide .commands).showError
        ⟨none, command.missingSelection kind⟩) true none ?_ rfl ?_
      · simp only [hh]
        exact .refuse hk hf hc hn hm.1 hm.2
      · simp only [showError, modifyPage_modifyPage]
        rfl
    · rename_i hm
      have hpick : Page.Picks kind key (board.page kind) command := by
        refine ⟨hk, picker, chosen, hf, hc, hn, fun hs => ?_⟩
        cases hsel : (board.page kind).selection with
        | none => simp [hs, hsel] at hm
        | some target => rfl
      rw [Page.selection_clear]
      cases ha : command.action with
      | confirm destruction =>
        refine Acts.of_step (fun page => { (page.hide .commands).display
          (.confirm (.ofConfirmation kind ⟨destruction, (board.page kind).selection⟩)) with
          confirmation := some ⟨destruction, (board.page kind).selection⟩ }) true none ?_ rfl ?_
        · simp only [hh, Page.display_clear]
          exact .ask hpick ha
        · simp only [act, askConfirmation, modifyPage_modifyPage]
          rfl
      | run verb =>
        cases ht : (board.page kind).selection with
        | none =>
          refine Acts.of_step (·.hide .commands) true none ?_ rfl ?_
          · simp only [hh]
            exact .close hf rfl
          · rfl
        | some target =>
          simp only [act, begin_touch]
          apply begin_acts
          simp only [hh]
          exact .command hpick ha ht
      | prompt purpose =>
        refine Acts.of_step (fun page => (page.hide .commands).display
          (.input (.new purpose (board.page kind).selection))) true none ?_ rfl ?_
        · simp only [hh, Page.display_clear]
          exact .prompt hpick ha
        · simp only [act, modifyPage_modifyPage]
          rfl
      | create =>
        refine Acts.of_step (fun page => { page.hide .commands with pendingCreate := true })
          true none ?_ rfl ?_
        · simp only [hh]
          exact .requestCreate hpick ha
        · simp only [act, requestCreate, modifyPage_modifyPage]
          rfl
      | stats =>
        refine Acts.of_step (fun page => { (page.hide .commands).display
          (.stats
            ⟨kind, ⟨board.nextId⟩, ((board.page kind).selection.map (·.id)).toList, none⟩) with
          live := true }) true none ?_ rfl ?_
        · simp only [hh, Page.display_clear]
          exact .openStats hpick ha
        · simp only [act, openStats, issueId]
          cases kind <;> rfl

theorem acceptConfirmation_acts {board : Board} {kind : Kind} {key : Key} {confirm : Confirm}
    (hk : key.code = .enter) (hf : (board.page kind).Faces (.confirm confirm))
    (ha : confirm.acceptFocused = true) :
    board.Acts (.key key) kind (board.acceptConfirmation kind) := by
  unfold acceptConfirmation
  have hh := Page.hide_eq_clear .confirm hf.2 rfl
  have hcancel : Page.Step (board.context kind) (board.page kind) (.key key)
      { (board.page kind).hide .confirm with confirmation := none } {} := by
    simp only [hh]
    exact .cancel hf
  cases hc : (board.page kind).confirmation with
  | none =>
    exact Acts.of_step (fun page => { page.hide .confirm with confirmation := none }) board.dirty
      none hcancel rfl rfl
  | some confirmation =>
    cases ho : confirmedOperation? kind confirmation with
    | none =>
      simp only [ho]
      exact Acts.of_step (fun page => { page.hide .confirm with confirmation := none })
        board.dirty none hcancel rfl rfl
    | some operation =>
      simp only [ho]
      refine begin_acts (f := fun page => { page.hide .confirm with confirmation := none }) ?_
      simp only [hh]
      exact .accept hk hf ha hc ho

theorem cancelConfirmation_acts {board : Board} {kind : Kind} {key : Key} {confirm : Confirm}
    (hf : (board.page kind).Faces (.confirm confirm)) :
    board.Acts (.key key) kind (.quiet (board.cancelConfirmation kind)) := by
  refine Acts.of_step (fun page => { page.hide .confirm with confirmation := none }) true none
    ?_ rfl rfl
  simp only [Page.hide_eq_clear .confirm hf.2 rfl]
  exact .cancel hf

theorem submitText_acts {board : Board} {kind : Kind} {key : Key} {prompt : Prompt}
    (hk : key.code = .enter) (hf : (board.page kind).Faces (.input prompt)) :
    board.Acts (.key key) kind
      (board.submitText kind prompt.purpose prompt.value prompt.target) := by
  unfold submitText
  have hh := Page.hide_eq_clear .input hf.2 rfl
  cases ht : (Text.trim prompt.value).isEmpty with
  | true =>
    simp only [ht, if_true]
    refine Acts.of_step (·.hide .input) true none ?_ rfl rfl
    simp only [hh]
    exact .close hf rfl
  | false =>
    simp only [ht, touch_begin, Bool.false_eq_true, if_false]
    refine begin_acts (f := (·.hide .input)) ?_
    simp only [hh]
    exact .text hk hf ht

theorem submitCreate_acts {board : Board} {kind : Kind} {key : Key} {create : CreateForm}
    {form : Form} (hf : (board.page kind).Faces (.create create))
    (hk : create.form.handleKey key = (form, .submit)) :
    board.Acts (.key key) kind
      ((board.modifyPage kind (·.display (.create { create with form }))).submitCreate kind) := by
  unfold submitCreate
  have hp := page_modifyPage_self board kind (·.display (.create { create with form }))
  simp only [hp, Page.layers_display, modifyPage_modifyPage]
  cases hs : ({ create with form } : CreateForm).spec with
  | error failure =>
    refine Acts.of_step (fun page => (page.display (.create { create with form })).showError
      ⟨some (Text.upper kind.noun ++ " CREATE ERROR"), failure.message⟩) true none
      (.reject hf hk hs) rfl ?_
    simp only [showError, modifyPage_modifyPage]
    rfl
  | ok spec =>
    refine begin_acts (f := fun page => (page.display (.create { create with form })).hide .create)
      ?_
    rw [Page.hide_eq_clear .create (Page.dialog_display _ (.create { create with form })) rfl]
    exact .form hf hk hs

theorem pullImage_acts {board : Board} {kind : Kind} {key : Key} {listing : Listing}
    {image : String} (hk : key.code = .enter) (hf : (board.page kind).Faces (.table listing))
    (hu : listing.use = .searchResults) (hi : listing.selectedImage? = some image) :
    board.Acts (.key key) kind (board.pullImage kind image) := by
  refine begin_acts (f := (·.hide .table)) ?_
  simp only [Page.hide_eq_clear .table hf.2 rfl]
  exact .hit hk hf hu hi

theorem closeStats_acts {board : Board} {kind : Kind} {key : Key} {monitor : Monitor}
    (hk : key.code = .enter ∨ key.code = .escape) (hf : (board.page kind).Faces (.stats monitor)) :
    board.Acts (.key key) kind (board.closeStats kind) := by
  refine Acts.of_step (fun page => { page.hide .stats with live := false }) true none ?_ rfl ?_
  · simp only [Page.hide_eq_clear .stats hf.2 rfl]
    exact .closeStats hk hf
  · have hn : (board.closeStats kind).requests.countP Request.isNumbered = 0 := by
      unfold closeStats
      cases (board.page kind).live <;> rfl
    rw [hn]
    rfl

theorem update_acts {board : Board} {kind : Kind} {key : Key} {dialog dialog' : Dialog}
    (hf : (board.page kind).Faces dialog) (he : dialog.Edit key dialog') :
    board.Acts (.key key) kind (board.update kind dialog') :=
  Acts.of_step (·.display dialog') board.dirty none (.edit hf he) rfl rfl

theorem close_acts {board : Board} {kind : Kind} {key : Key} {dialog : Dialog} {sort : DialogSort}
    (hf : (board.page kind).Faces dialog) (hs : dialog.sort = sort) (hc : dialog.closes = true) :
    board.Acts (.key key) kind (board.close kind sort) := by
  refine Acts.of_step (·.hide sort) board.dirty none ?_ rfl rfl
  simp only [Page.hide_eq_clear sort hf.2 hs]
  exact .close hf hc

theorem pickerKey_acts {board : Board} {kind : Kind} {key : Key} {picker : Picker}
    (hf : (board.page kind).Faces (.commands picker)) :
    board.Acts (.key key) kind (board.pickerKey kind picker key) := by
  unfold pickerKey
  split
  · rename_i hk
    split
    · rename_i chosen hc
      exact runCommand_acts hk hf hc
    · exact .keep .keep
  · exact close_acts hf rfl rfl
  · exact .keep .keep

theorem promptKey_acts {board : Board} {kind : Kind} {key : Key} {prompt : Prompt}
    (hf : (board.page kind).Faces (.input prompt)) :
    board.Acts (.key key) kind (board.promptKey kind prompt key) := by
  unfold promptKey
  cases hk : key.code with
  | char c => exact update_acts hf (.push hk)
  | backspace => exact update_acts hf (.pop hk)
  | enter => exact submitText_acts hk hf
  | escape => exact close_acts hf rfl rfl
  | _ => exact .keep .keep

theorem pagerKey_acts {board : Board} {kind : Kind} {key : Key} {pager : Pager}
    (hf : (board.page kind).Faces (.message pager)) :
    board.Acts (.key key) kind (board.pagerKey kind key) := by
  unfold pagerKey
  split
  · exact close_acts hf rfl rfl
  · exact close_acts hf rfl rfl
  · exact .keep .keep

theorem confirmKey_acts {board : Board} {kind : Kind} {key : Key} {confirm : Confirm}
    (hf : (board.page kind).Faces (.confirm confirm)) :
    board.Acts (.key key) kind (board.confirmKey kind confirm key) := by
  unfold confirmKey
  split
  · rename_i hk
    exact update_acts hf (.toggle (.inl hk))
  · rename_i hk
    exact update_acts hf (.toggle (.inr (.inl hk)))
  · rename_i hk
    exact update_acts hf (.toggle (.inr (.inr (.inl hk))))
  · rename_i hk
    exact update_acts hf (.toggle (.inr (.inr (.inr hk))))
  · rename_i hk
    split
    · rename_i ha
      exact acceptConfirmation_acts hk hf ha
    · exact cancelConfirmation_acts hf
  · exact cancelConfirmation_acts hf
  · exact .keep .keep

theorem createKey_acts {board : Board} {kind : Kind} {key : Key} {create : CreateForm}
    (hf : (board.page kind).Faces (.create create)) :
    board.Acts (.key key) kind (board.createKey kind create key) := by
  unfold createKey
  rcases hk : create.form.handleKey key with ⟨form, event⟩
  cases event with
  | none => exact update_acts hf (.fill hk)
  | cancel =>
    refine Acts.of_step (fun page => (page.display (.create { create with form })).hide .create)
      board.dirty none ?_ rfl ?_
    · rw [Page.hide_eq_clear .create (Page.dialog_display _ (.create { create with form })) rfl]
      exact .close hf rfl
    · simp only [close, Reaction.quiet, modifyPage_modifyPage]
      rfl
  | submit => exact submitCreate_acts hf hk

theorem listingKey_acts {board : Board} {kind : Kind} {key : Key} {listing : Listing}
    (hf : (board.page kind).Faces (.table listing)) :
    board.Acts (.key key) kind (board.listingKey kind listing key) := by
  unfold listingKey
  split
  · rename_i hk
    split
    · rename_i image hu hi
      exact pullImage_acts hk hf hu hi
    · exact close_acts hf rfl rfl
  · exact close_acts hf rfl rfl
  · exact .keep .keep

theorem statsKey_acts {board : Board} {kind : Kind} {key : Key} {monitor : Monitor}
    (hf : (board.page kind).Faces (.stats monitor)) :
    board.Acts (.key key) kind (board.statsKey kind key) := by
  unfold statsKey
  split
  · rename_i hk
    exact closeStats_acts (.inl hk) hf
  · rename_i hk
    exact closeStats_acts (.inr hk) hf
  · exact .keep .keep

/-- A key that leads to the page of a kind: the table has the focus, or an operation runs. -/
def Turns (board : Board) (key : Key) (kind : Kind) : Prop :=
  pageKey? board.active key = some kind ∧
    (board.activePage.Bare ∨ ∃ progress, board.activePage.Faces (.progress progress))

theorem progressKey_cases {board : Board} {progress : Progress} (key : Key)
    (hf : board.activePage.Faces (.progress progress)) :
    (∃ kind, board.Turns key kind ∧
      Reaction.quiet (board.progressKey key) = .quiet (board.switchTo kind)) ∨
      board.Acts (.key key) board.active (.quiet (board.progressKey key)) := by
  unfold progressKey
  split
  · rename_i kind hk
    exact .inl ⟨kind, ⟨hk, .inr ⟨progress, hf⟩⟩, rfl⟩
  · exact .inr (.keep .keep)

theorem dialogKey_cases {board : Board} {dialog : Dialog} (key : Key)
    (hf : board.activePage.Faces dialog) :
    (∃ kind, board.Turns key kind ∧ board.dialogKey dialog key = .quiet (board.switchTo kind)) ∨
      board.Acts (.key key) board.active (board.dialogKey dialog key) := by
  unfold dialogKey
  dsimp only
  split
  · rename_i hd
    rw [Bool.and_eq_true] at hd
    exact .inr (update_acts hf (.down hd.1 hd.2))
  split
  · rename_i hu
    rw [Bool.and_eq_true] at hu
    exact .inr (update_acts hf (.up hu.1 hu.2))
  cases dialog with
  | commands picker => exact .inr (pickerKey_acts hf)
  | input prompt => exact .inr (promptKey_acts hf)
  | message pager => exact .inr (pagerKey_acts hf)
  | confirm confirm => exact .inr (confirmKey_acts hf)
  | create create => exact .inr (createKey_acts hf)
  | table listing => exact .inr (listingKey_acts hf)
  | stats monitor => exact .inr (statsKey_acts hf)
  | progress progress => exact progressKey_cases key hf

theorem tableKey_cases {board : Board} (key : Key) (hb : board.activePage.Bare) :
    (∃ kind, board.Turns key kind ∧ board.tableKey key = .quiet (board.switchTo kind)) ∨
      board.Acts (.key key) board.active (board.tableKey key) := by
  unfold tableKey
  dsimp only
  split
  · rename_i kind hk
    exact .inl ⟨kind, ⟨hk, .inl hb⟩, rfl⟩
  refine .inr ?_
  split
  · refine Acts.of_step (fun page => (page.down (board.rows board.active)).reconcile
      (board.rows board.active)) board.dirty none (.move hb) rfl ?_
    simp only [reconcile, Reaction.quiet, modifyPage_modifyPage]
    rfl
  split
  · refine Acts.of_step (fun page => (page.up (board.rows board.active)).reconcile
      (board.rows board.active)) board.dirty none (.move hb) rfl ?_
    simp only [reconcile, Reaction.quiet, modifyPage_modifyPage]
    rfl
  split
  · rename_i hk
    refine Acts.of_step (fun page => (page.reconcile (board.rows board.active)).display
      (.commands (.ofKind board.active))) board.dirty none (.browse (.inl hk) hb) rfl ?_
    simp only [reconcile, Reaction.quiet, modifyPage_modifyPage]
    rfl
  · rename_i hk
    refine Acts.of_step (fun page => (page.reconcile (board.rows board.active)).display
      (.commands (.ofKind board.active))) board.dirty none (.browse (.inr hk) hb) rfl ?_
    simp only [reconcile, Reaction.quiet, modifyPage_modifyPage]
    rfl
  · rename_i hk
    exact ⟨⟨none, .quit (.inr ⟨hb, hk⟩), rfl⟩, fun _ _ => rfl, rfl, rfl, rfl, rfl⟩
  · exact .keep .keep

theorem errorKey_acts {board : Board} (key : Key)
    (he : board.activePage.layers.error.isSome = true) :
    board.Acts (.key key) board.active (.quiet (board.errorKey key)) := by
  unfold errorKey
  split
  · rename_i hk
    exact Acts.of_step (fun page => { page with layers := page.layers.dismissError }) board.dirty
      none (.dismiss (.inl hk) he) rfl rfl
  · rename_i hk
    exact Acts.of_step (fun page => { page with layers := page.layers.dismissError }) board.dirty
      none (.dismiss (.inr hk) he) rfl rfl
  · exact .keep .keep

theorem routeKey_cases (board : Board) (key : Key) :
    (∃ kind, board.Turns key kind ∧ board.routeKey key = .quiet (board.switchTo kind)) ∨
      board.Acts (.key key) board.active (board.routeKey key) := by
  unfold routeKey
  dsimp only
  split
  · rename_i notice he
    exact .inr (errorKey_acts key (by rw [he]; rfl))
  · rename_i dialog he hd
    exact dialogKey_cases key ⟨he, hd⟩
  · rename_i he hd
    exact tableKey_cases key ⟨he, hd⟩

end Board

end Deckhand
