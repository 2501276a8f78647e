import Deckhand.Proofs.Board.Sound

namespace Deckhand

inductive Incident where
  | event (event : Event)
  | rows (kind : Kind) (rows : List Row)

def Board.meet (board : Board) : Incident → Reaction
  | .event event => board.handle event
  | .rows kind rows => .quiet (board.replaceRows kind rows)

/-- A board from its start, through events in any order and tables that are replaced at any time. -/
structure History where
  settings : Settings
  tables : Tables
  incidents : List Incident

namespace History

def board (h : History) (n : Nat) : Board :=
  (h.incidents.take n).foldl (fun board incident => (board.meet incident).board)
    (.new h.settings h.tables)

def page (h : History) (n : Nat) (kind : Kind) : Page := (h.board n).page kind

def event? (h : History) (n : Nat) : Option Event :=
  match h.incidents[n]? with
  | some (.event event) => some event
  | _ => none

def requests (h : History) (n : Nat) : List Request :=
  match h.event? n with
  | some event => ((h.board n).handle event).requests
  | none => []

variable {h : History} {n : Nat} {kind : Kind}

theorem board_succ_of_getElem? {incident : Incident} (hi : h.incidents[n]? = some incident) :
    h.board (n + 1) = ((h.board n).meet incident).board := by
  unfold board
  rw [List.take_add_one, hi, Option.toList_some, List.foldl_append]
  rfl

theorem board_succ_of_event {event : Event} (he : h.event? n = some event) :
    h.board (n + 1) = ((h.board n).handle event).board := by
  unfold event? at he
  split at he
  · rename_i shown hi
    cases he
    exact board_succ_of_getElem? hi
  · cases he

theorem requests_of_event {event : Event} (he : h.event? n = some event) :
    h.requests n = ((h.board n).handle event).requests := by
  unfold requests
  rw [he]

theorem board_succ_of_no_event (he : h.event? n = none) :
    h.board (n + 1) = h.board n ∨
      ∃ kind rows, h.board (n + 1) = (h.board n).replaceRows kind rows := by
  cases hi : h.incidents[n]? with
  | none =>
    left
    unfold board
    rw [List.take_add_one, hi, Option.toList_none, List.append_nil]
  | some incident =>
    cases incident with
    | event event => simp only [event?, hi] at he; cases he
    | rows kind rows => exact .inr ⟨kind, rows, board_succ_of_getElem? hi⟩

theorem page_succ_of_no_event (he : h.event? n = none) (kind : Kind) :
    h.page (n + 1) kind = h.page n kind := by
  unfold page
  obtain hb | ⟨_, _, hb⟩ := board_succ_of_no_event he
  · rw [hb]
  · rw [hb]
    rfl

/-- What holds of a new board and is kept by events and by replaced rows holds in every history. -/
theorem invariant {P : Board → Prop} (hnew : ∀ settings tables, P (.new settings tables))
    (hhandle : ∀ board event, P board → P (board.handle event).board)
    (hrows : ∀ board kind rows, P board → P (board.replaceRows kind rows)) (h : History) (n : Nat) :
    P (h.board n) := by
  induction n with
  | zero => exact hnew h.settings h.tables
  | succ n ih =>
    cases he : h.event? n with
    | some event =>
      rw [board_succ_of_event he]
      exact hhandle _ event ih
    | none =>
      obtain hb | ⟨kind, rows, hb⟩ := board_succ_of_no_event he
      · rw [hb]
        exact ih
      · rw [hb]
        exact hrows _ kind rows ih

theorem sound (h : History) (n : Nat) : (h.board n).Sound :=
  invariant Board.sound_new (fun _ event hb => hb.handle event)
    (fun _ kind rows hb => hb.replaceRows kind rows) h n

/-- The page of a kind takes a step for itself, or it is left alone, or a key leads to it. -/
theorem page_succ (h : History) (n : Nat) (kind : Kind) :
    (∃ event notice, h.event? n = some event ∧ (h.board n).addressee event = some kind ∧
      Page.Step ((h.board n).context kind) (h.page n kind) event (h.page (n + 1) kind)
        ⟨h.requests n, notice⟩) ∨
      h.page (n + 1) kind = h.page n kind ∨
      (h.board n).active ≠ kind ∧
        h.page (n + 1) kind = (h.page n kind).reconcile ((h.board n).rows kind) := by
  cases he : h.event? n with
  | none => exact .inr (.inl (page_succ_of_no_event he kind))
  | some event =>
    have hb := board_succ_of_event he
    by_cases ha : (h.board n).addressee event = some kind
    · left
      obtain ⟨notice, hs, -⟩ := Board.handle_step ha
      refine ⟨event, notice, rfl, ha, ?_⟩
      rw [requests_of_event he, page, page, hb]
      exact hs
    · right
      rw [page, hb]
      obtain hp | ⟨⟨key, rfl⟩, hp⟩ := Board.handle_page_of_ne ha
      · exact .inl hp
      · exact .inr ⟨fun hactive => ha (congrArg some hactive), hp⟩

theorem step_of_mem_requests {request : Request} (hr : request ∈ h.requests n) :
    ∃ event kind notice, h.event? n = some event ∧ (h.board n).addressee event = some kind ∧
      Page.Step ((h.board n).context kind) (h.page n kind) event (h.page (n + 1) kind)
        ⟨h.requests n, notice⟩ := by
  unfold requests at hr
  split at hr
  · rename_i event he
    cases ha : (h.board n).addressee event with
    | none => rw [Board.requests_of_addressee_eq_none ha] at hr; cases hr
    | some kind =>
      obtain ⟨notice, hs, -⟩ := Board.handle_step ha
      refine ⟨event, kind, notice, he, ha, ?_⟩
      rw [requests_of_event he, page, page, board_succ_of_event he]
      exact hs
  · cases hr

end History

end Deckhand
