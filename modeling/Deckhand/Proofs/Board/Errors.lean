import Deckhand.Proofs.Board.Submit

namespace Deckhand

namespace Page

/-- An event has an error shown on the page that it is addressed to. -/
inductive Raises (kind : Kind) (page : Page) : Event → Notice → Prop
  | refused {key picker chosen command} : key.code = .enter → page.Faces (.commands picker) →
      picker.selected? = some chosen → Command.find? kind chosen.name = some command →
      command.needsSelection = true → page.selection = none →
      Raises kind page (.key key) ⟨none, command.missingSelection kind⟩
  | rejected {key create form failure} : page.Faces (.create create) →
      create.form.handleKey key = (form, .submit) →
      { create with form : CreateForm }.spec = .error failure →
      Raises kind page (.key key)
        ⟨some (Text.upper kind.noun ++ " CREATE ERROR"), failure.message⟩
  | failed {id label failure} : Raises kind page (.finished kind id label (.error failure))
      ⟨some label.errorTitle, failure.message⟩
  | lost {id error monitor} : page.layers.dialog = some (.stats monitor) → monitor.id = id →
      Raises kind page (.statsFailed kind id error)
        ⟨some (Text.upper kind.noun ++ " STATS ERROR"), error⟩

/-- Nothing runs for a page under an error. -/
def RestsUnderError (page : Page) : Prop :=
  page.layers.error.isSome = true → page.inFlight = none ∧ page.live = false

section

variable {c : Context} {kind : Kind} {page page' : Page} {key : Key} {event : Event}
variable {output : Output} {dialog : Dialog} {notice : Notice}

theorem error_settle (page : Page) (id : OperationId) :
    (page.settle id).layers.error = page.layers.error := by
  unfold settle Layers.hideProgress
  dsimp only
  split <;> rfl

theorem Submits.error {operation : Operation} {rest : Page}
    (hs : page.Submits kind key operation rest) : rest.layers.error = page.layers.error := by
  cases hs <;> rfl

theorem Submits.error_eq_none {operation : Operation} {rest : Page}
    (hs : page.Submits kind key operation rest) : page.layers.error = none := by
  cases hs with
  | command hp _ _ =>
    obtain ⟨-, picker, chosen, hf, -⟩ := hp
    exact hf.1
  | accept _ hf _ _ _ => exact hf.1
  | text _ hf _ => exact hf.1
  | form hf _ _ => exact hf.1
  | hit _ hf _ _ => exact hf.1

theorem Picks.error_eq_none {command : Command} (hp : page.Picks kind key command) :
    page.layers.error = none := by
  obtain ⟨-, picker, chosen, hf, -⟩ := hp
  exact hf.1

theorem Step.error (hs : Step c page event page' output) :
    page'.layers.error = page.layers.error ∨
      (∃ key, event = .key key ∧ (key.code = .enter ∨ key.code = .escape) ∧
        page' = { page with layers := page.layers.dismissError }) ∨
      ∃ notice, page.Raises c.kind event notice ∧ page'.layers.error = some notice := by
  cases hs with
  | dismiss hk _ => exact .inr (.inl ⟨_, rfl, hk, rfl⟩)
  | refuse hk hf hc hn hs hsel => exact .inr (.inr ⟨_, .refused hk hf hc hn hs hsel, rfl⟩)
  | reject hf hk hs => exact .inr (.inr ⟨_, .rejected hf hk hs, rfl⟩)
  | failStats hd hid => exact .inr (.inr ⟨_, .lost hd hid, rfl⟩)
  | fail => exact .inr (.inr ⟨_, .failed, rfl⟩)
  | begin hsub _ => exact .inl hsub.error
  | busy hsub _ => exact .inl hsub.error
  | succeed _ | present _ _ | mention _ _ => exact .inl (error_settle page _)
  | _ => exact .inl rfl

theorem RestsUnderError.of_none (h : page.layers.error = none) : page.RestsUnderError := by
  intro he
  rw [h] at he
  cases he

theorem RestsUnderError.congr (h : page.RestsUnderError)
    (he : page'.layers.error = page.layers.error) (hi : page'.inFlight = page.inFlight)
    (hl : page'.live = page.live) : page'.RestsUnderError := by
  intro hs
  rw [hi, hl]
  exact h (he ▸ hs)

theorem RestsUnderError.settle (h : page.RestsUnderError) (id : OperationId) :
    (page.settle id).RestsUnderError := by
  intro he
  rw [error_settle] at he
  obtain ⟨hi, hl⟩ := h he
  exact ⟨by simp [Page.settle, hi], hl⟩

/-- A step keeps this as long as only the end of the operation that a page waits for is reported. -/
theorem Step.restsUnderError (hs : Step c page event page' output) (h : page.Sound c.kind)
    (hr : page.RestsUnderError)
    (hend : ∀ id label result, event = .finished c.kind id label result →
      page.inFlight = some id) :
    page'.RestsUnderError := by
  cases hs with
  | keep | quit _ | refuseList | missSample _ | missFailure _ => exact hr
  | revisit | move | refresh | forgetCreate => exact hr.congr rfl rfl rfl
  | dismiss => exact .of_none rfl
  -- A key for a dialog or for the table finds no error, and most leave none.
  | browse _ hb => exact .of_none hb.1
  | edit hf _ | close hf _ | cancel hf | closeStats _ hf => exact .of_none hf.1
  | ask hp _ | prompt hp _ | requestCreate hp _ | openStats hp _ =>
    exact .of_none hp.error_eq_none
  | begin hsub _ | busy hsub _ => exact .of_none (hsub.error.trans hsub.error_eq_none)
  | refuse _ hf _ _ _ _ | reject hf _ _ =>
    have hi := h.idle_of_faces hf rfl
    exact fun _ => ⟨hi.inFlight, hi.live⟩
  | sample _ _ => exact hr.congr rfl rfl rfl
  | failStats hd _ =>
    have hi := h.inFlight
    rw [hd] at hi
    exact fun _ => ⟨hi, rfl⟩
  | @fail id label failure =>
    obtain ⟨hne, -⟩ | ⟨-, hi, -⟩ := h.settle id
    · exact absurd (hend id label _ rfl) hne
    · exact fun _ => ⟨hi.inFlight, hi.live⟩
  | succeed _ | mention _ _ => exact hr.settle _
  | present _ _ => exact (hr.settle _).congr rfl rfl rfl
  | openCreate _ _ _ => exact hr.congr rfl rfl rfl

theorem Raises.error_eq_none (hr : page.Raises kind event notice) (h : page.Sound kind)
    (hrest : page.RestsUnderError)
    (hend : ∀ id label result, event = .finished kind id label result →
      page.inFlight = some id) :
    page.layers.error = none := by
  cases he : page.layers.error with
  | none => rfl
  | some shown =>
    obtain ⟨hi, hl⟩ := hrest (by rw [he]; rfl)
    cases hr with
    | refused _ hf _ _ _ _ | rejected hf _ _ => exact absurd (he.symm.trans hf.1) (by simp)
    | failed => exact absurd (hi.symm.trans (hend _ _ _ rfl)) (by simp)
    | lost hd _ =>
      have hlive := h.live
      rw [hd, hl] at hlive
      cases hlive

end

end Page

namespace Reaction

structure Reports (reaction : Reaction) (kind : Kind) (notice : Notice) : Prop where
  shown : (reaction.board.page kind).layers.error = some notice
  written : reaction.journal = [.error (Text.lower notice.text)]

theorem Reports.andThen {first : Reaction} {next : Board → Reaction} {kind : Kind} {notice : Notice}
    (hj : first.journal = []) (h : (next first.board).Reports kind notice) :
    (first.andThen next).Reports kind notice :=
  ⟨h.shown, by rw [Reaction.andThen, hj]; exact h.written⟩

def Silent (reaction : Reaction) : Prop :=
  ∀ entry ∈ reaction.journal, entry.level ≠ .error

theorem Silent.of_nil {reaction : Reaction} (h : reaction.journal = []) : reaction.Silent := by
  intro entry he
  rw [h] at he
  cases he

theorem Silent.of_warning {reaction : Reaction} {text : String}
    (h : reaction.journal = [.warning text]) : reaction.Silent := by
  intro entry he
  rw [h] at he
  cases List.mem_singleton.mp he
  exact fun hl => by cases hl

end Reaction

namespace Board

variable {board : Board} {kind : Kind} {key : Key} {event : Event} {notice : Notice}

theorem showError_reports (board : Board) (kind : Kind) (title : Option String)
    (failure : Failure) : (board.showError kind title failure).Reports kind ⟨title, failure.message⟩ :=
  ⟨congrArg (·.layers.error) (page_modifyPage_self board kind _), rfl⟩

theorem journal_begin (board : Board) (kind : Kind) (operation : Operation) :
    (board.begin kind operation).journal = [] := by
  unfold begin
  dsimp only
  split <;> rfl

theorem journal_act (board : Board) (kind : Kind) (selection : Option Ref) (action : Action) :
    (board.act kind selection action).journal = [] := by
  cases action with
  | run verb =>
    cases selection with
    | none => rfl
    | some target => exact journal_begin board kind _
  | _ => rfl

/-- What happens to a page either raises an error, which is reported, or is silent. -/
def Alarms (board : Board) (event : Event) (kind : Kind) (reaction : Reaction) : Prop :=
  (∃ notice, (board.page kind).Raises kind event notice ∧ reaction.Reports kind notice) ∨
    reaction.Silent

theorem runCommand_alarms {picker : Picker} {chosen : Command} (hk : key.code = .enter)
    (hf : (board.page kind).Faces (.commands picker)) (hc : picker.selected? = some chosen) :
    board.Alarms (.key key) kind (board.runCommand kind chosen.name) := by
  cases hn : Command.find? kind chosen.name with
  | none =>
    have hj : (board.runCommand kind chosen.name).journal =
        [.warning ("run_command: unknown " ++ kind.noun ++ " command " ++ chosen.name)] := by
      simp only [runCommand, hn]
    exact .inr (.of_warning hj)
  | some command =>
    rw [runCommand_of_find? hn]
    dsimp only
    split
    · rename_i hm
      simp only [Bool.and_eq_true, Option.isNone_iff_eq_none] at hm
      exact .inl ⟨_, .refused hk hf hc hn hm.1 hm.2, showError_reports _ _ _ _⟩
    · refine .inr (.of_nil ?_)
      simp only [Reaction.andThen, Reaction.quiet, journal_act, List.append_nil]

theorem acceptConfirmation_silent (board : Board) (kind : Kind) :
    (board.acceptConfirmation kind).Silent := by
  unfold acceptConfirmation
  dsimp only
  split
  · exact .of_warning rfl
  · split
    · exact .of_nil (journal_begin _ _ _)
    · exact .of_warning rfl

theorem journal_submitText (board : Board) (kind : Kind) (purpose : Purpose) (value : String)
    (target : Option Ref) : (board.submitText kind purpose value target).journal = [] := by
  unfold submitText
  dsimp only
  split
  · rfl
  · exact journal_begin _ _ _

theorem journal_promptKey (board : Board) (kind : Kind) (prompt : Prompt) (key : Key) :
    (board.promptKey kind prompt key).journal = [] := by
  cases hk : key.code with
  | enter =>
    have hr : board.promptKey kind prompt key =
        board.submitText kind prompt.purpose prompt.value prompt.target := by
      simp only [promptKey, hk]
    rw [hr]
    exact journal_submitText board kind _ _ _
  | _ =>
    simp only [promptKey, hk]
    rfl

theorem pickerKey_alarms {picker : Picker} (hf : (board.page kind).Faces (.commands picker)) :
    board.Alarms (.key key) kind (board.pickerKey kind picker key) := by
  unfold pickerKey
  split
  · rename_i hk
    split
    · rename_i chosen hc
      exact runCommand_alarms hk hf hc
    · exact .inr (.of_nil rfl)
  all_goals exact .inr (.of_nil rfl)

theorem journal_pagerKey (board : Board) (kind : Kind) (key : Key) :
    (board.pagerKey kind key).journal = [] := by
  unfold pagerKey
  split <;> rfl

theorem confirmKey_silent (board : Board) (kind : Kind) (confirm : Confirm) (key : Key) :
    (board.confirmKey kind confirm key).Silent := by
  unfold confirmKey
  split
  case h_5 =>
    split
    · exact acceptConfirmation_silent board kind
    · exact .of_nil rfl
  all_goals exact .of_nil rfl

theorem journal_listingKey (board : Board) (kind : Kind) (listing : Listing) (key : Key) :
    (board.listingKey kind listing key).journal = [] := by
  unfold listingKey
  split
  · split
    · exact journal_begin _ _ _
    · rfl
  all_goals rfl

theorem journal_statsKey (board : Board) (kind : Kind) (key : Key) :
    (board.statsKey kind key).journal = [] := by
  unfold statsKey
  split <;> rfl

theorem createKey_alarms {create : CreateForm} (hf : (board.page kind).Faces (.create create)) :
    board.Alarms (.key key) kind (board.createKey kind create key) := by
  unfold createKey
  rcases hk : create.form.handleKey key with ⟨form, event⟩
  cases event with
  | none | cancel => exact .inr (.of_nil rfl)
  | submit =>
    dsimp only
    unfold submitCreate
    rw [page_modifyPage_self]
    simp only [Page.layers_display]
    cases hs : ({ create with form } : CreateForm).spec with
    | ok spec => exact .inr (.of_nil (journal_begin _ _ _))
    | error failure => exact .inl ⟨_, .rejected hf hk hs, showError_reports _ _ _ _⟩

theorem dialogKey_alarms {dialog : Dialog} (hf : board.activePage.Faces dialog) :
    board.Alarms (.key key) board.active (board.dialogKey dialog key) := by
  unfold dialogKey
  dsimp only
  split
  · exact .inr (.of_nil rfl)
  split
  · exact .inr (.of_nil rfl)
  cases dialog with
  | commands picker => exact pickerKey_alarms hf
  | input prompt => exact .inr (.of_nil (journal_promptKey board _ prompt key))
  | message pager => exact .inr (.of_nil (journal_pagerKey board _ key))
  | confirm confirm => exact .inr (confirmKey_silent board _ confirm key)
  | create create => exact createKey_alarms hf
  | table listing => exact .inr (.of_nil (journal_listingKey board _ listing key))
  | stats monitor => exact .inr (.of_nil (journal_statsKey board _ key))
  | progress progress => exact .inr (.of_nil rfl)

theorem journal_tableKey (board : Board) (key : Key) : (board.tableKey key).journal = [] := by
  unfold tableKey
  dsimp only
  split
  · rfl
  split
  · rfl
  split
  · rfl
  split <;> rfl

theorem routeKey_alarms (board : Board) (key : Key) :
    board.Alarms (.key key) board.active (board.routeKey key) := by
  unfold routeKey
  dsimp only
  split
  · exact .inr (.of_nil rfl)
  · rename_i dialog he hd
    exact dialogKey_alarms ⟨he, hd⟩
  · exact .inr (.of_nil (journal_tableKey board key))

theorem handleKey_alarms (board : Board) (key : Key) :
    board.Alarms (.key key) board.active (board.handleKey key) := by
  unfold handleKey
  split
  · exact .inr (.of_nil rfl)
  · exact routeKey_alarms { board with notification := none, dirty := true } key

theorem failStats_alarms (board : Board) (kind : Kind) (id : OperationId) (error : String) :
    board.Alarms (.statsFailed kind id error) kind (board.failStats kind id error) := by
  unfold failStats
  split
  · rename_i monitor hm
    obtain ⟨hd, hid⟩ := monitor?_eq_some hm
    exact .inl ⟨_, .lost hd hid, .andThen rfl (showError_reports _ kind _ (.host error))⟩
  · exact .inr (.of_nil rfl)

theorem finish_alarms (board : Board) (kind : Kind) (id : OperationId) (label : Label)
    (result : Except Failure Outcome) :
    board.Alarms (.finished kind id label result) kind (board.finish kind id label result) := by
  cases result with
  | error failure => exact .inl ⟨_, .failed, showError_reports _ kind _ failure⟩
  | ok outcome => exact .inr (.of_nil rfl)

theorem handle_alarms (h : board.addressee event = some kind) :
    board.Alarms event kind (board.handle event) := by
  cases event with
  | key key => cases h; exact handleKey_alarms board key
  | resize width height => cases h
  | listRefreshed kind => exact .inr (.of_nil rfl)
  | listFailed kind error => exact .inr (.of_warning rfl)
  | statsUpdated kind id report => exact .inr (.of_nil rfl)
  | statsFailed kind id error => cases h; exact failStats_alarms board kind id error
  | finished kind id label result => cases h; exact finish_alarms board kind id label result
  | choicesLoaded kind choices => exact .inr (.of_nil rfl)

theorem handle_reports (h : board.addressee event = some kind)
    (hr : (board.page kind).Raises kind event notice) :
    (board.handle event).Reports kind notice := by
  cases hr with
  | @refused key picker chosen command hk hf hc hn hs hsel =>
    cases h
    have hnone : ((board.heard (.key key)).page board.active).selection = none := by
      rw [page_heard]
      exact hsel
    rw [handle_choose hk hf hc, runCommand_of_find? hn]
    simp only [hs, hnone, Option.isNone_none, Bool.and_true, if_true]
    exact showError_reports _ _ _ (.nothingSelected _)
  | @rejected key create form failure hf hk hs =>
    cases h
    rw [handle_enter (Form.code_of_handleKey_submit hk) hf, dialogKey]
    simp only [Dialog.hasLines, Bool.false_and, Bool.false_eq_true, if_false, active_heard,
      createKey, hk, submitCreate, page_modifyPage_self, Page.layers_display, hs]
    exact showError_reports _ _ _ failure
  | @failed id label failure => exact showError_reports _ kind _ failure
  | @lost id error monitor hd hid =>
    have hm : board.monitor? kind id = some monitor := by
      simp only [Board.monitor?, hd, hid, if_true]
    rw [handle, failStats, hm]
    exact .andThen rfl (showError_reports _ kind _ (.host error))

/-- Enter and Esc take away the error of the active page and do nothing else to it. -/
theorem page_handle_dismiss (hk : key.code = .enter ∨ key.code = .escape)
    (he : board.activePage.layers.error.isSome = true) :
    (board.handle (.key key)).board.page board.active =
      { board.activePage with layers := board.activePage.layers.dismissError } := by
  have hi : key.isInterrupt = false := by
    obtain hk | hk := hk <;> simp [Key.isInterrupt, hk]
  obtain ⟨notice, hn⟩ := Option.isSome_iff_exists.mp he
  have herror : (board.heard (.key key)).errorKey key =
      (board.heard (.key key)).modifyPage board.active fun page =>
        { page with layers := page.layers.dismissError } := by
    obtain hk | hk := hk <;> simp only [errorKey, hk, active_heard]
  have hr : board.handle (.key key) = .quiet ((board.heard (.key key)).errorKey key) := by
    rw [handle_key board hi, routeKey, activePage_heard, hn]
  rw [hr, herror, Reaction.quiet, page_modifyPage_self, page_heard]
  rfl

def RestsUnderErrors (board : Board) : Prop := ∀ kind, (board.page kind).RestsUnderError

theorem restsUnderErrors_new (settings : Settings) (tables : Tables) :
    (new settings tables).RestsUnderErrors := by
  intro kind
  have hp : (new settings tables).page kind = .empty := PerKind.get_ofFn _ kind
  rw [hp]
  exact .of_none rfl

theorem RestsUnderErrors.handle (h : board.RestsUnderErrors) (hs : board.Sound)
    (hend : ∀ kind id label result, event = .finished kind id label result →
      (board.page kind).inFlight = some id) :
    (board.handle event).board.RestsUnderErrors := by
  intro kind
  by_cases ha : board.addressee event = some kind
  · obtain ⟨notice, hstep, -⟩ := handle_step ha
    exact hstep.restsUnderError (hs kind) (h kind) (hend kind)
  · obtain he | ⟨-, he⟩ := handle_page_of_ne ha
    · rw [he]
      exact h kind
    · rw [he]
      exact (h kind).congr rfl rfl rfl

end Board

end Deckhand
