import Deckhand.Proofs.Board.Agreement
import Deckhand.Proofs.Board.Focus
import Deckhand.Proofs.Board.History

namespace Deckhand

def Request.isEffect : Request → Bool
  | run _ _ _ | loadChoices _ => true
  | startLive _ _ _ | stopLive _ | refreshNow | quit => false

namespace Page

/-- A page on the way from the list of commands back to `table`, with what was asked for so far. -/
inductive Errand (kind : Kind) (table : Page) : Page → List Request → Prop
  | commands {picker} : Errand kind table (table.display (.commands picker)) []
  | confirm {confirm confirmation} : Errand kind table
      { table.display (.confirm confirm) with confirmation := some confirmation } []
  | input {prompt} : Errand kind table (table.display (.input prompt)) []
  | stats {monitor id ids} : Errand kind table
      { table.display (.stats monitor) with live := true } [.startLive kind id ids]
  | error {notice} : Errand kind table (table.showError notice) []

def Balanced (kind : Kind) (requests : List Request) : Prop :=
  requests = [] ∨ ∃ id ids, requests = [.startLive kind id ids, .stopLive kind]

variable {c : Context} {kind : Kind} {table page page' : Page} {key : Key} {output : Output}
variable {asked : List Request} {dialog dialog' : Dialog}

theorem Bare.clear_display (ht : table.Bare) (dialog : Dialog) :
    (table.display dialog).clear = table := by
  obtain ⟨he, hd⟩ := ht
  obtain ⟨cursor, selection, ⟨error, shown⟩, confirmation, inFlight, pendingCreate, live⟩ := table
  cases hd
  rfl

theorem Bare.dismiss_showError (ht : table.Bare) (notice : Notice) :
    { table.showError notice with layers := (table.showError notice).layers.dismissError } =
      table := by
  obtain ⟨he, hd⟩ := ht
  obtain ⟨cursor, selection, ⟨error, shown⟩, confirmation, inFlight, pendingCreate, live⟩ := table
  cases he
  rfl

namespace Errand

theorem not_bare (h : Errand kind table page asked) : ¬ page.Bare := by
  rintro ⟨he, hd⟩
  cases h with
  | error => cases he
  | _ => cases hd

theorem of_error (h : Errand kind table page asked) (he : page.layers.error.isSome = true)
    (ht : table.Bare) : (∃ notice, page = table.showError notice) ∧ asked = [] := by
  cases h with
  | error => exact ⟨⟨_, rfl⟩, rfl⟩
  | _ =>
    have hn : table.layers.error.isSome = true := he
    rw [ht.1] at hn
    cases hn

theorem sort_ne (h : Errand kind table page asked) (hf : page.Faces dialog) :
    dialog.sort ≠ .progress ∧ dialog.sort ≠ .create := by
  obtain ⟨he, hd⟩ := hf
  cases h with
  | error => cases he
  | _ =>
    cases hd
    exact ⟨nofun, nofun⟩

theorem of_picks (h : Errand kind table page asked) {command : Command}
    (hp : page.Picks kind key command) :
    (∃ picker, page = table.display (.commands picker)) ∧ asked = [] := by
  obtain ⟨-, picker, chosen, ⟨he, hd⟩, -⟩ := hp
  cases h with
  | commands => exact ⟨⟨_, rfl⟩, rfl⟩
  | confirm | input | stats => cases hd
  | error => cases he

theorem edit (h : Errand kind table page asked) (hf : page.Faces dialog)
    (he : dialog.Edit key dialog') : Errand kind table (page.display dialog') asked := by
  obtain ⟨hn, hd⟩ := hf
  cases h with
  | commands =>
    cases hd
    cases he <;> exact .commands
  | confirm =>
    cases hd
    cases he with
    | toggle _ => exact .confirm
    | down hl _ | up hl _ => cases hl
  | input =>
    cases hd
    cases he with
    | push _ | pop _ => exact .input
    | down hl _ | up hl _ => cases hl
  | stats =>
    cases hd
    cases he with
    | down hl _ | up hl _ => cases hl
  | error => cases hn

theorem close (h : Errand kind table page asked) (hf : page.Faces dialog) (ht : table.Bare)
    (hc : dialog.closes = true) : page.clear = table ∧ asked = [] := by
  obtain ⟨hn, hd⟩ := hf
  cases h with
  | commands | input => exact ⟨ht.clear_display _, rfl⟩
  | confirm | stats =>
    cases hd
    cases hc
  | error => cases hn

theorem cancel (h : Errand kind table page asked) {confirm : Confirm}
    (hf : page.Faces (.confirm confirm)) (ht : table.Bare) (hi : table.Idle) :
    { page.clear with confirmation := none } = table ∧ asked = [] := by
  obtain ⟨hn, hd⟩ := hf
  cases h with
  | confirm =>
    obtain ⟨-, -, hc⟩ := hi
    obtain ⟨-, hd⟩ := ht
    obtain ⟨cursor, selection, ⟨error, shown⟩, _, inFlight, pendingCreate, live⟩ := table
    cases hc
    cases hd
    exact ⟨rfl, rfl⟩
  | commands | input | stats => cases hd
  | error => cases hn

theorem closeStats (h : Errand kind table page asked) {monitor : Monitor}
    (hf : page.Faces (.stats monitor)) (ht : table.Bare) (hi : table.Idle) :
    { page.clear with live := false } = table ∧ page.live = true ∧
      ∃ id ids, asked = [.startLive kind id ids] := by
  obtain ⟨hn, hd⟩ := hf
  cases h with
  | stats =>
    obtain ⟨-, hl, -⟩ := hi
    obtain ⟨-, hd⟩ := ht
    obtain ⟨cursor, selection, ⟨error, shown⟩, confirmation, inFlight, pendingCreate, _⟩ := table
    cases hl
    cases hd
    exact ⟨rfl, rfl, _, _, rfl⟩
  | commands | confirm | input => cases hd
  | error => cases hn

theorem inFlight (h : Errand kind table page asked) : page.inFlight = table.inFlight := by
  cases h <;> rfl

end Errand

theorem Step.errand (hs : Step c page (.key key) page' output)
    (h : Errand c.kind table page asked) (ht : table.Bare) (hi : table.Idle)
    (hk : key.isInterrupt = false) (hq : ∀ request ∈ output.requests, request.isEffect = false) :
    Errand c.kind table page' (asked ++ output.requests) ∨
      page' = table ∧ Balanced c.kind (asked ++ output.requests) := by
  -- Most steps ask for nothing.
  rw [← List.append_nil asked] at h
  cases hs with
  | keep => exact .inl h
  | quit hquit =>
    obtain hquit | ⟨hb, -⟩ := hquit
    · rw [hk] at hquit
      cases hquit
    · exact absurd hb h.not_bare
  | dismiss _ he =>
    obtain ⟨⟨notice, rfl⟩, hn⟩ := h.of_error he ht
    exact .inr ⟨ht.dismiss_showError notice, .inl hn⟩
  | revisit _ hb =>
    obtain hb | ⟨progress, hf⟩ := hb
    · exact absurd hb h.not_bare
    · exact absurd rfl (h.sort_ne hf).1
  | move hb => exact absurd hb h.not_bare
  | browse _ hb => exact absurd hb h.not_bare
  | edit hf he => exact .inl (h.edit hf he)
  | close hf hc =>
    obtain ⟨hp, hn⟩ := h.close hf ht hc
    exact .inr ⟨hp, .inl hn⟩
  | cancel hf =>
    obtain ⟨hp, hn⟩ := h.cancel hf ht hi
    exact .inr ⟨hp, .inl hn⟩
  | refuse _ hf _ _ _ _ =>
    obtain ⟨hp, hn⟩ := h.close hf ht rfl
    left
    rw [hn, hp]
    exact .error
  | ask hp _ =>
    obtain ⟨⟨picker, rfl⟩, hn⟩ := h.of_picks hp
    left
    rw [hn]
    exact .confirm
  | prompt hp _ =>
    obtain ⟨⟨picker, rfl⟩, hn⟩ := h.of_picks hp
    left
    rw [hn]
    exact .input
  | requestCreate _ _ => cases hq _ List.mem_cons_self
  | openStats hp _ =>
    obtain ⟨⟨picker, rfl⟩, hn⟩ := h.of_picks hp
    left
    rw [List.append_nil] at hn
    rw [hn]
    exact .stats
  | begin _ _ => cases hq _ List.mem_cons_self
  | busy hsub hbusy =>
    rw [hsub.inFlight, h.inFlight, hi.inFlight] at hbusy
    cases hbusy
  | reject hf _ _ => exact absurd rfl (h.sort_ne hf).2
  | closeStats _ hf =>
    obtain ⟨hp, hl, id, ids, hn⟩ := h.closeStats hf ht hi
    rw [List.append_nil] at hn
    refine .inr ⟨hp, .inr ⟨id, ids, ?_⟩⟩
    rw [hn, if_pos hl]
    rfl

end Page

namespace Board

def press (board : Board) : List Key → Reaction
  | [] => .quiet board
  | key :: keys => (board.handle (.key key)).andThen (·.press keys)

/-- Keys that open the list of commands over a table and lead back to the table, on the way without
an operation that is run or lists that are loaded. -/
structure Abandons (board : Board) (keys : List Key) : Prop where
  table : board.activePage.layers.focus = .table
  opens : ∃ key rest, keys = key :: rest ∧ (key.code = .enter ∨ key.code = .char 'm')
  uninterrupted : ∀ key ∈ keys, key.isInterrupt = false
  effectless : ∀ request ∈ (board.press keys).requests, request.isEffect = false
  away : ∀ n, 0 < n → n < keys.length →
    ((board.press (keys.take n)).board.page board.active).layers.focus ≠ .table
  back : ((board.press keys).board.page board.active).layers.focus = .table

def ground (board : Board) : Page := board.activePage.reconcile (board.rows board.active)

/-- A board in the middle of a session that was begun at `start`. -/
structure Underway (start board : Board) (asked : List Request) : Prop where
  active : board.active = start.active
  page : Page.Errand start.active start.ground (board.page start.active) asked
  others : ∀ kind, kind ≠ start.active → board.page kind = start.page kind

structure Restored (start board : Board) (asked : List Request) : Prop where
  active : board.active = start.active
  page : board.page start.active = start.ground
  others : ∀ kind, kind ≠ start.active → board.page kind = start.page kind
  balanced : Page.Balanced start.active asked

variable {start board : Board} {asked : List Request} {key : Key} {keys : List Key}

theorem Underway.focus_ne_table (h : start.Underway board asked) :
    (board.page start.active).layers.focus ≠ .table :=
  fun hf => h.page.not_bare (Layers.focus_eq_table_iff.mp hf)

theorem Underway.not_turns (h : start.Underway board asked) (kind : Kind) :
    ¬ board.Turns key kind := by
  rintro ⟨-, hb | ⟨progress, hf⟩⟩
  · rw [activePage, h.active] at hb
    exact h.page.not_bare hb
  · rw [activePage, h.active] at hf
    exact (h.page.sort_ne hf).1 rfl

theorem Underway.handle (h : start.Underway board asked) (ht : start.ground.Bare)
    (hi : start.ground.Idle) (hk : key.isInterrupt = false)
    (hq : ∀ request ∈ (board.handle (.key key)).requests, request.isEffect = false) :
    start.Underway (board.handle (.key key)).board (asked ++ (board.handle (.key key)).requests) ∨
      start.Restored (board.handle (.key key)).board
        (asked ++ (board.handle (.key key)).requests) := by
  have haddressee : board.addressee (.key key) = some start.active := congrArg some h.active
  obtain ⟨_, target, he, hturns, -⟩ | hacts := handle_cases haddressee
  · cases he
    exact absurd hturns (h.not_turns target)
  · obtain ⟨notice, hs, -⟩ := hacts.step
    rw [context_heard, page_heard] at hs
    have hactive : (board.handle (.key key)).board.active = start.active := by
      rw [hacts.active, active_heard, h.active]
    have hothers (kind : Kind) (ho : kind ≠ start.active) :
        (board.handle (.key key)).board.page kind = start.page kind := by
      rw [hacts.others kind ho, page_heard, h.others kind ho]
    obtain hpage | ⟨hpage, hbalanced⟩ := hs.errand h.page ht hi hk hq
    · exact .inl ⟨hactive, hpage, hothers⟩
    · exact .inr ⟨hactive, hpage, hothers, hbalanced⟩

theorem Underway.press (h : start.Underway board asked) (ht : start.ground.Bare)
    (hi : start.ground.Idle) (hk : ∀ key ∈ keys, key.isInterrupt = false)
    (hq : ∀ request ∈ (board.press keys).requests, request.isEffect = false)
    (haway : ∀ n, 0 < n → n < keys.length →
      ((board.press (keys.take n)).board.page start.active).layers.focus ≠ .table)
    (hback : ((board.press keys).board.page start.active).layers.focus = .table) :
    start.Restored (board.press keys).board (asked ++ (board.press keys).requests) := by
  induction keys generalizing board asked with
  | nil => exact absurd hback h.focus_ne_table
  | cons key keys ih =>
    have hkey : key.isInterrupt = false := hk key List.mem_cons_self
    have hfirst : ∀ request ∈ (board.handle (.key key)).requests, request.isEffect = false :=
      fun request hr => hq request (List.mem_append_left _ hr)
    have hassoc : asked ++ (board.press (key :: keys)).requests =
        asked ++ (board.handle (.key key)).requests ++
          ((board.handle (.key key)).board.press keys).requests :=
      (List.append_assoc ..).symm
    rw [hassoc]
    obtain hnext | hdone := h.handle ht hi hkey hfirst
    · apply ih hnext
      · intro key hmem
        exact hk key (List.mem_cons_of_mem _ hmem)
      · intro request hr
        exact hq request (List.mem_append_right _ hr)
      · intro n hpos hlt
        exact haway (n + 1) n.succ_pos (Nat.succ_lt_succ hlt)
      · exact hback
    · cases keys with
      | nil =>
        rw [press, Reaction.quiet, List.append_nil]
        exact hdone
      | cons next keys =>
        -- The table would have had the focus before the last key.
        refine absurd ?_ (haway 1 Nat.one_pos (Nat.succ_lt_succ (Nat.succ_pos _)))
        have hfocus : start.ground.layers.focus = .table := ht.focus
        rw [← hdone.page] at hfocus
        exact hfocus

theorem handle_browse (hb : board.activePage.Bare) (hi : key.isInterrupt = false)
    (hk : key.code = .enter ∨ key.code = .char 'm') :
    board.handle (.key key) = .quiet (((board.heard (.key key)).reconcile board.active).modifyPage
      board.active (·.display (.commands (.ofKind board.active)))) := by
  rw [handle_key board hi, routeKey, activePage_heard, hb.1, hb.2]
  obtain hk | hk := hk <;> simp [tableKey, pageKey?, Key.isDown, Key.isUp, hk]

theorem underway_browse (hb : board.activePage.Bare) (hi : key.isInterrupt = false)
    (hk : key.code = .enter ∨ key.code = .char 'm') :
    board.Underway (board.handle (.key key)).board [] := by
  rw [handle_browse hb hi hk]
  constructor
  · exact active_heard board _
  · have hpage : (((board.heard (.key key)).reconcile board.active).modifyPage board.active
        (·.display (.commands (.ofKind board.active)))).page board.active =
        board.ground.display (.commands (.ofKind board.active)) := by
      simp only [page_modifyPage_self, reconcile, page_heard, rows, tables_heard]
      rfl
    rw [Reaction.quiet, hpage]
    exact .commands
  · intro kind hother
    rw [Reaction.quiet, page_modifyPage_of_ne _ _ hother, reconcile,
      page_modifyPage_of_ne _ _ hother, page_heard]

theorem Abandons.restored (ha : board.Abandons keys) (hs : board.Sound) :
    board.Restored (board.press keys).board (board.press keys).requests ∧ board.ground.Idle := by
  have hbare : board.activePage.Bare := Layers.focus_eq_table_iff.mp ha.table
  obtain ⟨hi, hl, hc⟩ := (hs board.active).idle_of_none hbare.2
  have hidle : board.ground.Idle := ⟨hi, hl, hc⟩
  obtain ⟨key, rest, rfl, hk⟩ := ha.opens
  have hkey : key.isInterrupt = false := ha.uninterrupted key List.mem_cons_self
  have hunderway := underway_browse hbare hkey hk
  have hquiet : (board.handle (.key key)).requests = [] := by
    rw [handle_browse hbare hkey hk]
    rfl
  have hrequests : (board.press (key :: rest)).requests =
      ((board.handle (.key key)).board.press rest).requests := by
    rw [press, Reaction.andThen, hquiet, List.nil_append]
  refine ⟨?_, hidle⟩
  rw [hrequests]
  apply hunderway.press hbare hidle
  · intro key hmem
    exact ha.uninterrupted key (List.mem_cons_of_mem _ hmem)
  · rw [← hrequests]
    exact ha.effectless
  · intro n hpos hlt
    exact ha.away (n + 1) n.succ_pos (Nat.succ_lt_succ hlt)
  · exact ha.back

end Board

/-- A session of dialogs that is abandoned leaves no trace: all pages are as before, with the page of
the session in line with its table, and what was sampled for it is sampled no more. -/
theorem History.abandoned_dialogs_leave_no_trace (h : History) (n : Nat) (keys : List Key)
    (ha : (h.board n).Abandons keys) :
    let board := h.board n
    let after := (board.press keys).board
    after.active = board.active ∧
      (∀ kind, after.page kind = (board.reconcile board.active).page kind) ∧
      (after.activePage.confirmation = none ∧ after.activePage.live = false ∧
        after.activePage.inFlight = board.activePage.inFlight ∧
        after.activePage.pendingCreate = board.activePage.pendingCreate) ∧
      (board.Agrees board.active → ∀ kind, after.page kind = board.page kind) ∧
      Page.Balanced board.active (board.press keys).requests := by
  intro board after
  obtain ⟨⟨hactive, hpage, hothers, hbalanced⟩, hidle⟩ := ha.restored (h.sound n)
  have hsame : after.activePage = board.ground := by
    rw [Board.activePage, hactive, hpage]
  refine ⟨hactive, fun kind => ?_, ?_, fun hagrees kind => ?_, hbalanced⟩
  · by_cases hk : kind = board.active
    · have hground : (board.reconcile board.active).page board.active = board.ground :=
        Board.page_modifyPage_self board board.active _
      rw [hk, hground]
      exact hpage
    · exact (hothers kind hk).trans (Board.page_modifyPage_of_ne board _ hk).symm
  · rw [hsame]
    exact ⟨hidle.confirmation, hidle.live, rfl, rfl⟩
  · by_cases hk : kind = board.active
    · rw [hk]
      exact hpage.trans hagrees.reconcile_eq
    · exact hothers kind hk

def oneListed : History where
  settings := {}
  tables := .empty
  incidents := [.rows .containers [⟨"5e", "web", []⟩]]

def peek : List Key :=
  [⟨.char 'm', false, false, false⟩, ⟨.up, false, false, false⟩, ⟨.up, false, false, false⟩,
    ⟨.up, false, false, false⟩, ⟨.up, false, false, false⟩, ⟨.enter, false, false, false⟩,
    ⟨.escape, false, false, false⟩]

theorem abandons_peek : (oneListed.board 1).Abandons peek where
  table := rfl
  opens := ⟨_, _, rfl, .inr rfl⟩
  uninterrupted := by decide
  effectless := by decide +kernel
  away n hpos hlt :=
    (by decide +kernel : ∀ n < 7, 0 < n →
      (((oneListed.board 1).press (peek.take n)).board.page .containers).layers.focus ≠ .table)
      n hlt hpos
  back := rfl

theorem figures_leave_no_trace : (oneListed.board 1).Abandons peek ∧
    ((oneListed.board 1).press peek).board.page .containers =
        ((oneListed.board 1).reconcile .containers).page .containers ∧
      Page.Balanced .containers ((oneListed.board 1).press peek).requests := by
  obtain ⟨-, hpages, -, -, hbalanced⟩ :=
    History.abandoned_dialogs_leave_no_trace oneListed 1 peek abandons_peek
  exact ⟨abandons_peek, hpages .containers, hbalanced⟩

end Deckhand
