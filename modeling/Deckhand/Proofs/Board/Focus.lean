import Deckhand.Proofs.Board.Submit

namespace Deckhand

namespace Layers

theorem focus_eq_dialog_iff {layers : Layers} {sort : DialogSort} :
    layers.focus = .dialog sort ↔
      layers.error = none ∧ ∃ dialog, layers.dialog = some dialog ∧ dialog.sort = sort := by
  obtain ⟨error, dialog⟩ := layers
  cases error <;> cases dialog <;> simp [focus]

theorem focus_eq_table_iff {layers : Layers} :
    layers.focus = .table ↔ layers.error = none ∧ layers.dialog = none := by
  obtain ⟨error, dialog⟩ := layers
  cases error <;> cases dialog <;> simp [focus]

theorem focus_eq_error {layers : Layers} (h : layers.error.isSome = true) :
    layers.focus = .error := by
  obtain ⟨notice, hn⟩ := Option.isSome_iff_exists.mp h
  simp [focus, hn]

end Layers

namespace Dialog

variable {dialog dialog' : Dialog} {key : Key}

theorem Edit.sort_ne_progress (h : dialog.Edit key dialog') : dialog.sort ≠ .progress := by
  cases h with
  | down hl _ | up hl _ =>
    cases dialog with
    | progress progress => cases hl
    | _ => exact nofun
  | _ => exact nofun

theorem sort_ne_progress_of_closes (h : dialog.closes = true) : dialog.sort ≠ .progress := by
  cases dialog with
  | progress progress => cases h
  | _ => exact nofun

end Dialog

namespace Page

/-- At most cursor and selection of the table differ. -/
def Moved (page page' : Page) : Prop :=
  page' = { page with cursor := page'.cursor, selection := page'.selection }

def Rests (page page' : Page) : Prop :=
  page'.cursor = page.cursor ∧ page'.selection = page.selection

/-- The keyboard acts on a dialog, and it is more than progress. -/
def AtDialog (page : Page) : Prop := ∃ dialog, page.Faces dialog ∧ dialog.sort ≠ .progress

/-- What a key that leads to no page can make of the active one, by what the keyboard acts on there.
Progress keeps all other keys from the page. -/
def Confined (kind : Kind) (page page' : Page) : Focus → Prop
  | .error => page' = page ∨ page' = { page with layers := page.layers.dismissError }
  | .dialog .progress => page' = page
  | .dialog _ => page.Rests page'
  | .table => page.Moved page' ∨
      ∃ moved, page.Moved moved ∧ page' = moved.display (.commands (.ofKind kind))

variable {c : Context} {kind : Kind} {page page' : Page} {key : Key} {output : Output}
variable {dialog : Dialog}

theorem Faces.focus (h : page.Faces dialog) : page.layers.focus = .dialog dialog.sort :=
  Layers.focus_eq_dialog_iff.mpr ⟨h.1, dialog, h.2, rfl⟩

theorem Bare.focus (h : page.Bare) : page.layers.focus = .table :=
  Layers.focus_eq_table_iff.mpr h

theorem exists_faces {sort : DialogSort} (h : page.layers.focus = .dialog sort) :
    ∃ dialog, page.Faces dialog ∧ dialog.sort = sort := by
  obtain ⟨he, dialog, hd, hs⟩ := Layers.focus_eq_dialog_iff.mp h
  exact ⟨dialog, ⟨he, hd⟩, hs⟩

theorem moved_reconcile (page : Page) (rows : List Row) : page.Moved (page.reconcile rows) := rfl

theorem Confined.refl (kind : Kind) (page : Page) (focus : Focus) :
    page.Confined kind page focus := by
  cases focus with
  | error => exact .inl rfl
  | dialog sort => cases sort <;> first | exact ⟨rfl, rfl⟩ | exact rfl
  | table => exact .inl rfl

theorem Confined.of_atDialog (hd : page.AtDialog) (hr : page.Rests page') :
    page.Confined kind page' page.layers.focus := by
  obtain ⟨dialog, hf, hs⟩ := hd
  rw [hf.focus]
  cases dialog with
  | progress progress => exact absurd rfl hs
  | _ => exact hr

theorem Picks.atDialog {command : Command} (hp : Picks kind key page command) :
    page.AtDialog := by
  obtain ⟨-, picker, -, hf, -⟩ := hp
  exact ⟨.commands picker, hf, nofun⟩

theorem Submits.atDialog {operation : Operation} {rest : Page}
    (hs : Submits kind key page operation rest) : page.AtDialog := by
  cases hs with
  | command hp _ _ => exact hp.atDialog
  | accept _ hf _ _ _ => exact ⟨_, hf, nofun⟩
  | text _ hf _ => exact ⟨_, hf, nofun⟩
  | form hf _ _ => exact ⟨_, hf, nofun⟩
  | hit _ hf _ _ => exact ⟨_, hf, nofun⟩

theorem Submits.rests {operation : Operation} {rest : Page}
    (hs : Submits kind key page operation rest) : page.Rests rest := by
  cases hs <;> exact ⟨rfl, rfl⟩

theorem Step.confined (hs : Step c page (.key key) page' output) :
    page.Confined c.kind page' page.layers.focus ∨
      (Board.pageKey? c.kind key = some c.kind ∧
        (page.Bare ∨ ∃ progress, page.Faces (.progress progress))) ∧
        page' = page.reconcile c.rows := by
  cases hs with
  | keep | quit _ => exact .inl (.refl c.kind page _)
  | dismiss _ he =>
    rw [Layers.focus_eq_error he]
    exact .inl (.inr rfl)
  | revisit hk hf => exact .inr ⟨⟨hk, hf⟩, rfl⟩
  | move hb =>
    rw [hb.focus]
    exact .inl (.inl rfl)
  | browse _ hb =>
    rw [hb.focus]
    exact .inl (.inr ⟨_, moved_reconcile page c.rows, rfl⟩)
  | edit hf he => exact .inl (.of_atDialog ⟨_, hf, he.sort_ne_progress⟩ ⟨rfl, rfl⟩)
  | close hf hc =>
    exact .inl (.of_atDialog ⟨_, hf, Dialog.sort_ne_progress_of_closes hc⟩ ⟨rfl, rfl⟩)
  | cancel hf => exact .inl (.of_atDialog ⟨_, hf, nofun⟩ ⟨rfl, rfl⟩)
  | refuse _ hf _ _ _ _ => exact .inl (.of_atDialog ⟨_, hf, nofun⟩ ⟨rfl, rfl⟩)
  | ask hp _ | prompt hp _ | requestCreate hp _ | openStats hp _ =>
    exact .inl (.of_atDialog hp.atDialog ⟨rfl, rfl⟩)
  | begin hsub _ | busy hsub _ => exact .inl (.of_atDialog hsub.atDialog hsub.rests)
  | reject hf _ _ => exact .inl (.of_atDialog ⟨_, hf, nofun⟩ ⟨rfl, rfl⟩)
  | closeStats _ hf => exact .inl (.of_atDialog ⟨_, hf, nofun⟩ ⟨rfl, rfl⟩)

theorem Step.quits (hs : Step c page (.key key) page' output) (hq : .quit ∈ output.requests) :
    key.isInterrupt = true ∨ page.Bare ∧ key.code = .char 'q' := by
  cases hs with
  | quit hk => exact hk
  | requestCreate _ _ | openStats _ _ | begin _ _ => cases List.mem_singleton.mp hq
  | closeStats _ _ =>
    dsimp only at hq
    split at hq
    · cases List.mem_singleton.mp hq
    · cases hq
  | _ => cases hq

theorem Step.asks {request : Request} (hs : Step c page (.key key) page' output)
    (hr : request ∈ output.requests) : request = .quit ∨ page.AtDialog := by
  cases hs with
  | quit _ => exact .inl (List.mem_singleton.mp hr)
  | requestCreate hp _ | openStats hp _ => exact .inr hp.atDialog
  | begin hsub _ => exact .inr hsub.atDialog
  | closeStats _ hf => exact .inr ⟨_, hf, nofun⟩
  | _ => cases hr

end Page

theorem Form.exists_handleKey_char (form : Form) (c : Char) :
    ∃ form', form.handleKey { code := .char c } = (form', .none) := by
  unfold handleKey buttonKey
  cases form.focus <;> exact ⟨_, rfl⟩

namespace Board

structure Confined (board : Board) (key : Key) (reaction : Reaction) : Prop where
  /-- The page stays active, or the key leads to a page, which is brought in line with its table. -/
  page :
    reaction.board.active = board.active ∧
        board.activePage.Confined board.active reaction.board.activePage
          board.activePage.layers.focus ∨
      board.Turns key reaction.board.active ∧
        (board.page reaction.board.active).Moved reaction.board.activePage
  others : ∀ kind, kind ≠ reaction.board.active → reaction.board.page kind = board.page kind
  tables : reaction.board.tables = board.tables
  settings : reaction.board.settings = board.settings
  requests : ∀ request ∈ reaction.requests, request = .quit ∨ board.activePage.AtDialog
  nextId : ¬ board.activePage.AtDialog → reaction.board.nextId = board.nextId

variable {board : Board} {key : Key}

theorem handle_interrupt (hi : key.isInterrupt = true) :
    board.handle (.key key) = { board, requests := [.quit] } := by
  simp [handle, handleKey, hi]

theorem active_switchTo (board : Board) (kind : Kind) : (board.switchTo kind).active = kind := rfl

theorem Confined.of_turns {kind : Kind} (ht : board.Turns key kind) :
    board.Confined key (.quiet ((board.heard (.key key)).switchTo kind)) := by
  have hpage (other : Kind) := page_switchTo (board.heard (.key key)) kind other
  simp only [page_heard] at hpage
  constructor
  · right
    simp only [Reaction.quiet, activePage, active_switchTo, hpage, if_true]
    exact ⟨ht, Page.moved_reconcile _ _⟩
  · intro other ho
    simp only [Reaction.quiet, active_switchTo] at ho ⊢
    rw [hpage, if_neg ho]
  · exact tables_heard board _
  · exact settings_heard board _
  · intro request hr
    cases hr
  · exact fun _ => nextId_heard board _

theorem Confined.of_acts {reaction : Reaction}
    (ha : (board.heard (.key key)).Acts (.key key) board.active reaction) :
    board.Confined key reaction := by
  obtain ⟨notice, hs, -⟩ := ha.step
  rw [context_heard, page_heard] at hs
  have hactive : reaction.board.active = board.active := by rw [ha.active, active_heard]
  constructor
  · unfold activePage
    rw [hactive]
    obtain hconfined | ⟨hturns, hpage⟩ := hs.confined
    · exact .inl ⟨rfl, hconfined⟩
    · exact .inr ⟨hturns, hpage ▸ Page.moved_reconcile _ _⟩
  · intro kind hk
    rw [ha.others kind (hactive ▸ hk), page_heard]
  · rw [ha.tables, tables_heard]
  · rw [ha.settings, settings_heard]
  · exact fun request hr => hs.asks hr
  · intro hd
    have hnone : reaction.requests.countP Request.isNumbered = 0 := by
      refine List.countP_eq_zero.mpr fun request hr => ?_
      obtain rfl | hd' := hs.asks hr
      · exact Bool.false_ne_true
      · exact absurd hd' hd
    rw [ha.nextId, nextId_heard, hnone, Nat.add_zero]

theorem handle_confined (board : Board) (key : Key) :
    board.Confined key (board.handle (.key key)) := by
  have haddressee : board.addressee (.key key) = some board.active := rfl
  obtain ⟨_, target, he, ht, hr⟩ | ha := handle_cases haddressee
  · cases he
    rw [hr]
    exact .of_turns ht
  · exact .of_acts ha

theorem handle_quit (hb : board.activePage.Bare) (hk : key.code = .char 'q') :
    .quit ∈ (board.handle (.key key)).requests := by
  cases hi : key.isInterrupt with
  | true => simp [handle_interrupt hi]
  | false =>
    rw [handle_key board hi, routeKey, activePage_heard, hb.1, hb.2]
    simp [tableKey, pageKey?, Key.isDown, Key.isUp, hk]

theorem quit_mem_requests_iff (board : Board) (key : Key) :
    .quit ∈ (board.handle (.key key)).requests ↔
      key.isInterrupt = true ∨ board.activePage.layers.focus = .table ∧ key.code = .char 'q' := by
  constructor
  · intro hq
    have haddressee : board.addressee (.key key) = some board.active := rfl
    obtain ⟨notice, hs, -⟩ := handle_step haddressee
    exact (hs.quits hq).imp_right fun ⟨hb, hk⟩ => ⟨Page.Bare.focus hb, hk⟩
  · rintro (hi | ⟨hf, hk⟩)
    · simp [handle_interrupt hi]
    · exact handle_quit (Layers.focus_eq_table_iff.mp hf) hk

theorem focus_update (kind : Kind) (dialog : Dialog)
    (he : (board.page kind).layers.error = none) :
    ((board.update kind dialog).board.page kind).layers.focus = .dialog dialog.sort := by
  unfold update
  rw [Reaction.quiet, page_modifyPage_self, Page.layers_display, he]
  rfl

def TakesText (board : Board) : Prop :=
  board.activePage.layers.focus = .dialog .input ∨ board.activePage.layers.focus = .dialog .create

theorem handle_char (ht : board.TakesText) (c : Char) :
    ∃ dialog, board.handle (.key { code := .char c }) =
        (board.heard (.key { code := .char c })).update board.active dialog ∧
      board.activePage.layers.focus = .dialog dialog.sort := by
  have hi : ({ code := .char c } : Key).isInterrupt = false := rfl
  obtain hf | hf := ht
  · obtain ⟨dialog, hd, hs⟩ := Page.exists_faces hf
    cases dialog with
    | input prompt =>
      refine ⟨.input (prompt.push c), ?_, hf⟩
      rw [handle_of_faces hi hd, ← active_heard board (.key { code := .char c })]
      rfl
    | _ => cases hs
  · obtain ⟨dialog, hd, hs⟩ := Page.exists_faces hf
    cases dialog with
    | create create =>
      obtain ⟨form, hform⟩ := create.form.exists_handleKey_char c
      refine ⟨.create { create with form }, ?_, hf⟩
      rw [handle_of_faces hi hd, ← active_heard board (.key { code := .char c })]
      simp only [dialogKey, Dialog.hasLines, Bool.false_and, Bool.false_eq_true, if_false,
        createKey, hform, update]
    | _ => cases hs

/-- Nothing is asked for, and nothing but the dialog that has the focus is another. -/
structure Stays (board : Board) (reaction : Reaction) : Prop where
  requests : reaction.requests = []
  active : reaction.board.active = board.active
  focus : reaction.board.activePage.layers.focus = board.activePage.layers.focus
  tables : reaction.board.tables = board.tables
  rests : ∀ kind, (board.page kind).Rests (reaction.board.page kind)
  others : ∀ kind, kind ≠ board.active → reaction.board.page kind = board.page kind

theorem Stays.andThen {reaction : Reaction} {next : Board → Reaction} (h : board.Stays reaction)
    (hn : reaction.board.Stays (next reaction.board)) : board.Stays (reaction.andThen next) where
  requests := by rw [Reaction.andThen, h.requests, hn.requests, List.append_nil]
  active := hn.active.trans h.active
  focus := hn.focus.trans h.focus
  tables := hn.tables.trans h.tables
  rests kind := ⟨(hn.rests kind).1.trans (h.rests kind).1, (hn.rests kind).2.trans (h.rests kind).2⟩
  others kind hk := (hn.others kind (h.active ▸ hk)).trans (h.others kind hk)

theorem handle_char_stays (ht : board.TakesText) (c : Char) :
    board.Stays (board.handle (.key { code := .char c })) := by
  obtain ⟨dialog, hu, hf⟩ := handle_char ht c
  have hother (kind : Kind) (hk : kind ≠ board.active) :
      (board.handle (.key { code := .char c })).board.page kind = board.page kind := by
    rw [hu]
    exact (page_modifyPage_of_ne _ _ hk).trans (page_heard board _ kind)
  have hsame : (board.handle (.key { code := .char c })).board.active = board.active := by
    rw [hu]
    exact active_heard board _
  constructor
  · rw [hu]
    rfl
  · exact hsame
  · have he : ((board.heard (.key { code := .char c })).page board.active).layers.error = none := by
      rw [page_heard]
      exact (Layers.focus_eq_dialog_iff.mp hf).1
    rw [activePage, hsame, hu, focus_update board.active dialog he, hf]
  · exact handle_tables board _
  · intro kind
    by_cases hk : kind = board.active
    · rw [hk, hu, update, Reaction.quiet, page_modifyPage_self, page_heard]
      exact ⟨rfl, rfl⟩
    · rw [hother kind hk]
      exact ⟨rfl, rfl⟩
  · exact hother

def type (board : Board) : List Char → Reaction
  | [] => .quiet board
  | c :: text => (board.handle (.key { code := .char c })).andThen (·.type text)

theorem type_stays (text : List Char) (ht : board.TakesText) :
    board.Stays (board.type text) := by
  induction text generalizing board with
  | nil => exact ⟨rfl, rfl, rfl, rfl, fun _ => ⟨rfl, rfl⟩, fun _ _ => rfl⟩
  | cons c text ih =>
    have hc := handle_char_stays ht c
    refine hc.andThen (ih ?_)
    unfold TakesText
    rw [hc.focus]
    exact ht

/-- Of all keys only Ctrl+c, and `q` at a table, quit. A key concerns what the keyboard acts on, and
a text typed into a prompt or a form stays there. -/
theorem keys_act_on_focus (board : Board) :
    (∀ key : Key, .quit ∈ (board.handle (.key key)).requests ↔
      key.isInterrupt = true ∨ board.activePage.layers.focus = .table ∧ key.code = .char 'q') ∧
    (∀ key : Key, board.Confined key (board.handle (.key key))) ∧
    (board.TakesText → ∀ text, board.Stays (board.type text)) :=
  ⟨quit_mem_requests_iff board, handle_confined board, fun ht text => type_stays text ht⟩

def namingFirst : Board :=
  (Board.new {} ⟨[⟨"5e", "web", []⟩, ⟨"7c", "db", []⟩], [], [], [], []⟩).modifyPage .containers
    (·.display (.input ⟨.rename, some ⟨"5e", "web"⟩, "we"⟩))

theorem typed_q_does_not_quit :
    namingFirst.TakesText ∧ namingFirst.Stays (namingFirst.type ['j', '2', 'q']) :=
  ⟨.inl rfl, (keys_act_on_focus namingFirst).2.2 (.inl rfl) ['j', '2', 'q']⟩

end Board

end Deckhand
