import Deckhand.Proofs.Board.Errors
import Deckhand.Proofs.Board.Focus
import Deckhand.Proofs.Board.WellFormed
import Deckhand.Proofs.Form.Focus

namespace Deckhand

theorem length_catalog_pos (kind : Kind) : 0 < (catalog kind).length := by
  cases kind <;> exact Nat.zero_lt_succ _

theorem Command.needsSelection_of_confirm (kind : Kind) (command : Command)
    (h : command ∈ catalog kind) (destruction : Destruction)
    (ha : command.action = .confirm destruction) :
    destruction = .prune ∨ command.needsSelection = true := by
  revert command
  cases kind <;> cases destruction <;> decide +kernel

structure Picker.Intact (kind : Kind) (picker : Picker) : Prop where
  kind_eq : picker.kind = kind
  cursor : picker.cursor < (catalog kind).length

namespace Picker.Intact

variable {kind : Kind} {picker : Picker}

theorem ofKind (kind : Kind) : (Picker.ofKind kind).Intact kind := ⟨rfl, length_catalog_pos kind⟩

theorem down (h : picker.Intact kind) : picker.down.Intact kind := by
  obtain ⟨rfl, -⟩ := h
  have hcount : picker.commands.length > 0 := length_catalog_pos picker.kind
  refine ⟨picker.kind_down, ?_⟩
  simp only [Picker.down, if_pos hcount]
  exact Nat.mod_lt _ hcount

theorem up (h : picker.Intact kind) : picker.up.Intact kind := by
  obtain ⟨rfl, hcursor⟩ := h
  have hcount : picker.commands.length > 0 := length_catalog_pos picker.kind
  refine ⟨picker.kind_up, ?_⟩
  simp only [Picker.up, if_pos hcount]
  split
  · exact Nat.sub_one_lt_of_lt hcount
  · exact Nat.lt_of_le_of_lt (Nat.sub_le _ 1) hcursor

theorem exists_selected (h : picker.Intact kind) :
    ∃ command ∈ catalog kind, picker.selected? = some command := by
  obtain ⟨rfl, hcursor⟩ := h
  exact ⟨_, List.getElem_mem hcursor, List.getElem?_eq_getElem hcursor⟩

end Picker.Intact

def Listing.Intact (listing : Listing) : Prop :=
  listing.cursor < listing.report.rows.length ∨ listing.report.rows = [] ∧ listing.cursor = 0

namespace Listing.Intact

variable {listing : Listing}

theorem new (use : ListingUse) (title : String) (report : Report) :
    (Listing.new use title report).Intact := by
  obtain ⟨headers, rows⟩ := report
  cases rows with
  | nil => exact .inr ⟨rfl, rfl⟩
  | cons row rows => exact .inl (Nat.zero_lt_succ _)

theorem down (h : listing.Intact) : listing.down.Intact := by
  unfold Listing.down
  split
  · rename_i hlt
    exact .inl hlt
  · exact h

theorem up (h : listing.Intact) : listing.up.Intact := by
  obtain hlt | ⟨hrows, hcursor⟩ := h
  · exact .inl (Nat.lt_of_le_of_lt (Nat.sub_le _ 1) hlt)
  · have hup : listing.up.cursor = 0 := by rw [Listing.up, hcursor]
    exact .inr ⟨hrows, hup⟩

end Listing.Intact

/-- A dialog on a page of the kind holds what is needed to show it and to go on from it. -/
def Dialog.Intact (kind : Kind) : Dialog → Prop
  | commands picker => picker.Intact kind
  | table listing => listing.Intact
  | create form => form.kind = kind ∧ form.form.Intact
  | input prompt => prompt.purpose ≠ .search → ∃ target, prompt.target = some target
  | message _ | confirm _ | stats _ | progress _ => True

namespace Dialog.Intact

variable {kind : Kind} {key : Key} {dialog dialog' : Dialog}

theorem edit (h : dialog.Intact kind) (he : dialog.Edit key dialog') : dialog'.Intact kind := by
  cases he with
  | @down dialog hl _ =>
    cases dialog with
    | commands picker => exact Picker.Intact.down h
    | table listing => exact Listing.Intact.down h
    | message pager => trivial
    | _ => cases hl
  | @up dialog hl _ =>
    cases dialog with
    | commands picker => exact Picker.Intact.up h
    | table listing => exact Listing.Intact.up h
    | message pager => trivial
    | _ => cases hl
  | push _ | pop _ => exact h
  | toggle _ => trivial
  | @fill create form hform =>
    have hkey := h.2.handleKey key
    rw [hform] at hkey
    exact ⟨h.1, hkey⟩

theorem of_resultDialog? {label : Label} {outcome : Outcome}
    (h : Board.resultDialog? kind label outcome = some dialog) : dialog.Intact kind := by
  cases outcome with
  | done | batch _ => cases h
  | text _ | lines _ | created _ =>
    cases h
    trivial
  | table report =>
    cases h
    exact Listing.Intact.new _ _ report

end Dialog.Intact

structure Page.Intact (kind : Kind) (page : Page) : Prop where
  dialog : ∀ dialog, page.layers.dialog = some dialog → dialog.Intact kind
  asks : (∃ confirm, page.layers.dialog = some (.confirm confirm)) ↔ page.confirmation.isSome = true
  target : ∀ confirmation, page.confirmation = some confirmation →
    confirmation.destruction ≠ .prune → ∃ target, confirmation.target = some target

namespace Page

variable {c : Context} {kind : Kind} {page page' : Page} {event : Event} {output : Output}
variable {key : Key} {command : Command} {operation : Operation} {rest : Page}

theorem Sound.asks_iff (h : page.Sound kind) :
    (∃ confirm, page.layers.dialog = some (.confirm confirm)) ↔
      page.confirmation.isSome = true := by
  constructor
  · rintro ⟨confirm, hd⟩
    have hc := h.confirmation
    rw [hd] at hc
    obtain ⟨confirmation, hc, -⟩ := Option.map_eq_some_iff.mp hc
    rw [hc]
    rfl
  · intro hs
    obtain ⟨confirmation, hc⟩ := Option.isSome_iff_exists.mp hs
    obtain ⟨-, confirm, hd, -⟩ := h.asks hc
    exact ⟨confirm, hd⟩

theorem Picks.selected (hp : page.Picks kind key command) (hn : command.needsSelection = true) :
    ∃ target, page.selection = some target := by
  obtain ⟨-, picker, chosen, -, -, -, hneeds⟩ := hp
  exact Option.isSome_iff_exists.mp (hneeds hn)

theorem Picks.mem_catalog (hp : page.Picks kind key command) : command ∈ catalog kind := by
  obtain ⟨-, picker, chosen, -, -, hn, -⟩ := hp
  exact Command.mem_of_find? hn

theorem intact_empty (kind : Kind) : empty.Intact kind where
  dialog _ h := by cases h
  asks := (sound_empty kind).asks_iff
  target _ h := by cases h

theorem Intact.of (h : page.Intact kind) (hs : page'.Sound kind)
    (hd : ∀ dialog, page'.layers.dialog = some dialog →
      page.layers.dialog = some dialog ∨ dialog.Intact kind)
    (hc : page'.confirmation = page.confirmation ∨ page'.confirmation = none) :
    page'.Intact kind where
  dialog dialog he := (hd dialog he).elim (h.dialog dialog) id
  asks := hs.asks_iff
  target confirmation he := by
    obtain hsame | hnone := hc
    · exact h.target confirmation (hsame ▸ he)
    · cases hnone.symm.trans he

theorem Submits.confirmation (hs : page.Submits kind key operation rest) :
    rest.confirmation = page.confirmation ∨ rest.confirmation = none := by
  cases hs with
  | accept _ _ _ _ _ => exact .inr rfl
  | command _ _ _ | text _ _ _ | form _ _ _ | hit _ _ _ _ => exact .inl rfl

theorem Submits.dialog (hs : page.Submits kind key operation rest) :
    rest.layers.dialog = none := by
  cases hs <;> rfl

theorem Intact.prompt (hp : page.Picks kind key command) {purpose : Purpose}
    (ha : command.action = .prompt purpose) :
    (Dialog.input (.new purpose page.selection)).Intact kind := by
  intro hs
  have hneeds := Command.needsSelection_of_prompt kind command hp.mem_catalog purpose ha
  exact hp.selected (hneeds.resolve_left hs)

theorem Step.intact (hs : Step c page event page' output) (hsound : page.Sound c.kind)
    (h : page.Intact c.kind) : page'.Intact c.kind := by
  have hsound' := hs.sound hsound
  -- The question agrees with the confirmation as both are sound, so only the dialogs are left.
  cases hs with
  | keep | quit _ | refuseList | missSample _ | missFailure _ => exact h
  | dismiss _ _ | revisit _ _ | move _ | refresh | forgetCreate =>
    exact h.of hsound' (fun _ hd => .inl hd) (.inl rfl)
  | browse _ _ =>
    exact h.of hsound' (fun _ hd => .inr (by cases hd; exact .ofKind c.kind)) (.inl rfl)
  | edit hf he =>
    have hedit := (h.dialog _ hf.2).edit he
    exact h.of hsound' (fun _ hd => .inr (by cases hd; exact hedit)) (.inl rfl)
  | close _ _ | requestCreate _ _ | closeStats _ _ | refuse _ _ _ _ _ _ | failStats _ _ =>
    exact h.of hsound' (fun _ hd => by cases hd) (.inl rfl)
  | cancel _ => exact h.of hsound' (fun _ hd => by cases hd) (.inr rfl)
  | @ask key command destruction hp ha =>
    refine ⟨fun _ hd => by cases hd; trivial, hsound'.asks_iff, fun confirmation hc hne => ?_⟩
    cases hc
    have hneeds := Command.needsSelection_of_confirm c.kind command hp.mem_catalog destruction ha
    exact hp.selected (hneeds.resolve_left hne)
  | prompt hp ha =>
    have hprompt := Intact.prompt hp ha
    exact h.of hsound' (fun _ hd => .inr (by cases hd; exact hprompt)) (.inl rfl)
  | openStats _ _ | sample _ _ =>
    exact h.of hsound' (fun _ hd => .inr (by cases hd; trivial)) (.inl rfl)
  | begin hsub _ =>
    exact h.of hsound' (fun _ hd => .inr (by cases hd; trivial)) hsub.confirmation
  | busy hsub _ =>
    exact h.of hsound' (fun _ hd => by cases hsub.dialog.symm.trans hd) hsub.confirmation
  | @reject key create form failure hf hform _ =>
    obtain ⟨hkind, hintact⟩ := h.dialog _ hf.2
    have hkey := hintact.handleKey key
    rw [hform] at hkey
    exact h.of hsound' (fun _ hd => .inr (by cases hd; exact ⟨hkind, hkey⟩)) (.inl rfl)
  | @fail id _ _ | @succeed id _ _ _ | @mention id _ _ _ _ _ _ =>
    refine h.of hsound' (fun dialog hd => .inl ?_) (.inl rfl)
    obtain hsame | ⟨-, -, -, hnone⟩ := page.dialog_settle id
    · exact hsame ▸ hd
    · cases hnone.symm.trans hd
  | present hr _ =>
    have hresult := Dialog.Intact.of_resultDialog? hr
    exact h.of hsound' (fun _ hd => .inr (by cases hd; exact hresult)) (.inl rfl)
  | openCreate _ _ hform =>
    have hcreate := And.intro (CreateForm.kind_of_new? hform) (CreateForm.intact_of_new? hform)
    exact h.of hsound' (fun _ hd => .inr (by cases hd; exact hcreate)) (.inl rfl)

theorem Intact.exists_confirmedOperation (h : page.Intact kind) {confirmation : Confirmation}
    (hc : page.confirmation = some confirmation) :
    ∃ operation, Board.confirmedOperation? kind confirmation = some operation := by
  have htarget := h.target confirmation hc
  obtain ⟨destruction, target⟩ := confirmation
  cases destruction with
  | prune => exact ⟨_, rfl⟩
  | remove | kill =>
    obtain ⟨target, rfl⟩ := htarget nofun
    exact ⟨_, rfl⟩

end Page

namespace Reaction

def Unwarned (reaction : Reaction) : Prop :=
  ∀ entry ∈ reaction.journal, entry.level ≠ .warning

theorem Unwarned.of_nil {reaction : Reaction} (h : reaction.journal = []) :
    reaction.Unwarned := by
  intro entry he
  rw [h] at he
  cases he

theorem Unwarned.of_error {reaction : Reaction} {text : String}
    (h : reaction.journal = [.error text]) : reaction.Unwarned := by
  intro entry he
  rw [h] at he
  cases List.mem_singleton.mp he
  exact fun hl => by cases hl

end Reaction

namespace Board

variable {board : Board} {kind : Kind} {key : Key} {event : Event}

structure Intact (board : Board) : Prop where
  sound : board.Sound
  page : ∀ kind, (board.page kind).Intact kind

theorem intact_new (settings : Settings) (tables : Tables) : (new settings tables).Intact where
  sound := sound_new settings tables
  page kind := by
    have hp : (new settings tables).page kind = .empty := PerKind.get_ofFn _ kind
    rw [hp]
    exact Page.intact_empty kind

theorem Intact.handle (h : board.Intact) (event : Event) : (board.handle event).board.Intact where
  sound := h.sound.handle event
  page kind := by
    by_cases ha : board.addressee event = some kind
    · obtain ⟨notice, hs, -⟩ := handle_step ha
      exact hs.intact (h.sound kind) (h.page kind)
    · have hsound := h.sound.handle event kind
      obtain he | ⟨-, he⟩ := handle_page_of_ne ha
      · rw [he]
        exact h.page kind
      · rw [he] at hsound ⊢
        exact (h.page kind).of hsound (fun _ hd => .inl hd) (.inl rfl)

theorem runCommand_unwarned {name : String} {command : Command}
    (hn : Command.find? kind name = some command) : (board.runCommand kind name).Unwarned := by
  rw [runCommand_of_find? hn]
  dsimp only
  split
  · exact .of_error rfl
  · refine .of_nil ?_
    simp only [Reaction.andThen, Reaction.quiet, journal_act, List.append_nil]

theorem pickerKey_unwarned {picker : Picker} (h : picker.Intact kind) :
    (board.pickerKey kind picker key).Unwarned := by
  unfold pickerKey
  split
  · obtain ⟨command, hmem, hselected⟩ := h.exists_selected
    rw [hselected]
    exact runCommand_unwarned (Command.find?_of_mem kind command hmem)
  · exact .of_nil rfl
  · exact .of_nil rfl

theorem acceptConfirmation_unwarned (h : (board.page kind).Intact kind) {confirm : Confirm}
    (hd : (board.page kind).layers.dialog = some (.confirm confirm)) :
    (board.acceptConfirmation kind).Unwarned := by
  obtain ⟨confirmation, hc⟩ := Option.isSome_iff_exists.mp (h.asks.mp ⟨confirm, hd⟩)
  obtain ⟨operation, ho⟩ := h.exists_confirmedOperation hc
  simp only [acceptConfirmation, hc, ho]
  exact .of_nil (journal_begin _ _ _)

theorem confirmKey_unwarned (h : (board.page kind).Intact kind) {confirm : Confirm}
    (hd : (board.page kind).layers.dialog = some (.confirm confirm)) :
    (board.confirmKey kind confirm key).Unwarned := by
  unfold confirmKey
  split
  case h_5 =>
    split
    · exact acceptConfirmation_unwarned h hd
    · exact .of_nil rfl
  all_goals exact .of_nil rfl

theorem submitCreate_unwarned (board : Board) (kind : Kind) :
    (board.submitCreate kind).Unwarned := by
  unfold submitCreate
  split
  · split
    · exact .of_nil (journal_begin _ _ _)
    · exact .of_error rfl
  · exact .of_nil rfl

theorem createKey_unwarned (board : Board) (kind : Kind) (create : CreateForm) (key : Key) :
    (board.createKey kind create key).Unwarned := by
  unfold createKey
  dsimp only
  split
  · exact .of_nil rfl
  · exact .of_nil rfl
  · exact submitCreate_unwarned _ kind

theorem dialogKey_unwarned (h : board.activePage.Intact board.active) {dialog : Dialog}
    (hd : board.activePage.layers.dialog = some dialog) :
    (board.dialogKey dialog key).Unwarned := by
  unfold dialogKey
  dsimp only
  split
  · exact .of_nil rfl
  split
  · exact .of_nil rfl
  cases dialog with
  | commands picker => exact pickerKey_unwarned (h.dialog _ hd)
  | input prompt => exact .of_nil (journal_promptKey board _ prompt key)
  | message pager => exact .of_nil (journal_pagerKey board _ key)
  | confirm confirm => exact confirmKey_unwarned h hd
  | create create => exact createKey_unwarned board _ create key
  | table listing => exact .of_nil (journal_listingKey board _ listing key)
  | stats monitor => exact .of_nil (journal_statsKey board _ key)
  | progress progress => exact .of_nil rfl

theorem routeKey_unwarned (h : board.activePage.Intact board.active) (key : Key) :
    (board.routeKey key).Unwarned := by
  unfold routeKey
  dsimp only
  split
  · exact .of_nil rfl
  · rename_i dialog _ hd
    exact dialogKey_unwarned h hd
  · exact .of_nil (journal_tableKey board key)

theorem handleKey_unwarned (h : board.activePage.Intact board.active) (key : Key) :
    (board.handleKey key).Unwarned := by
  unfold handleKey
  split
  · exact .of_nil rfl
  · exact @routeKey_unwarned { board with notification := none, dirty := true } h key

/-- The only warning on an intact board is about a list that failed. -/
theorem Intact.unwarned (h : board.Intact) (hl : ∀ kind error, event ≠ .listFailed kind error) :
    (board.handle event).Unwarned := by
  cases event with
  | key key => exact handleKey_unwarned (h.page board.active) key
  | listFailed kind error => exact absurd rfl (hl kind error)
  | statsFailed kind id error =>
    unfold Board.handle failStats
    dsimp only
    split
    · exact .of_error rfl
    · exact .of_nil rfl
  | finished kind id label result =>
    cases result with
    | error failure => exact .of_error rfl
    | ok outcome => exact .of_nil rfl
  | resize _ _ | listRefreshed _ | statsUpdated _ _ _ | choicesLoaded _ _ => exact .of_nil rfl

end Board

namespace History

theorem intact (h : History) (n : Nat) : (h.board n).Intact :=
  invariant Board.intact_new (fun _ event hb => hb.handle event)
    (fun _ kind rows hb => ⟨hb.sound.replaceRows kind rows, hb.page⟩) h n

/-- In every history the pages are intact and the board shows one of them. So there is a command at
the cursor of each list of commands, a section for each form to show, and an operation behind each
question; the keyboard acts on a dialog only if one of the sort is there; and but for a list that
failed nothing is ever warned of. -/
theorem every_board_is_intact (h : History) (n : Nat) :
    (Kind.all.length = 5 ∧ (∀ kind : Kind, Kind.all[kind.index]? = some kind) ∧
      (h.board n).active.index < 5) ∧
    (∀ kind, (h.page n kind).Intact kind) ∧
    (∀ kind picker, (h.page n kind).layers.dialog = some (.commands picker) →
      ∃ command, picker.selected? = some command ∧
        Command.find? kind command.name = some command) ∧
    (∀ kind create, (h.page n kind).layers.dialog = some (.create create) →
      ∃ part, create.form.sections[create.form.active]? = some part) ∧
    (∀ kind confirmation, (h.page n kind).confirmation = some confirmation →
      ∃ operation, Board.confirmedOperation? kind confirmation = some operation) ∧
    (∀ kind sort, (h.page n kind).layers.focus = .dialog sort →
      ∃ dialog, (h.page n kind).layers.dialog = some dialog ∧ dialog.sort = sort) ∧
    ∀ event, (∀ kind error, event ≠ .listFailed kind error) →
      ∀ entry ∈ ((h.board n).handle event).journal, entry.level ≠ .warning := by
  have hi := intact h n
  refine ⟨⟨rfl, Kind.ofIndex?_index, ?_⟩, hi.page, ?_, ?_, ?_, ?_, fun _ hl => hi.unwarned hl⟩
  · cases (h.board n).active <;> decide
  · intro kind picker hd
    obtain ⟨command, hmem, hselected⟩ := ((hi.page kind).dialog _ hd).exists_selected
    exact ⟨command, hselected, Command.find?_of_mem kind command hmem⟩
  · intro kind create hd
    exact ((hi.page kind).dialog _ hd).2.exists_active
  · intro kind confirmation hc
    exact (hi.page kind).exists_confirmedOperation hc
  · intro kind sort hf
    exact (Layers.focus_eq_dialog_iff.mp hf).2

end History

end Deckhand
