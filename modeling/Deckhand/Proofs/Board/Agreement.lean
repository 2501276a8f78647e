import Deckhand.Proofs.Board.Handle

namespace Deckhand

namespace Page

/-- The cursor is at a row of the table and the selection names that row; over an empty table there
is no selection. -/
def Agrees (page : Page) (rows : List Row) : Prop :=
  (rows = [] → page.cursor = 0 ∧ page.selection = none) ∧
    (rows ≠ [] → ∃ h : page.cursor < rows.length, page.selection = some rows[page.cursor].ref)

variable {c : Context} {kind : Kind} {page page' : Page} {event : Event} {output : Output}
variable {rows : List Row}

theorem agrees_empty : empty.Agrees [] := ⟨fun _ => ⟨rfl, rfl⟩, fun h => absurd rfl h⟩

theorem agrees_reconcile (page : Page) (rows : List Row) : (page.reconcile rows).Agrees rows := by
  constructor
  · rintro rfl
    rw [reconcile_nil]
    exact ⟨rfl, rfl⟩
  · intro hne
    have hpos : 0 < rows.length := List.length_pos_iff.mpr hne
    have hlt : min page.cursor (rows.length - 1) < rows.length := by omega
    refine ⟨hlt, ?_⟩
    simp only [reconcile, List.getElem?_eq_getElem hlt, Option.map_some]

theorem Agrees.reconcile_eq (h : page.Agrees rows) : page.reconcile rows = page := by
  obtain ⟨cursor, selection, layers, confirmation, inFlight, pendingCreate, live⟩ := page
  by_cases hn : rows = []
  · obtain ⟨hc, hs⟩ := h.1 hn
    dsimp only at hc hs
    subst hn hc hs
    exact reconcile_nil _
  · obtain ⟨hlt, hs⟩ := h.2 hn
    dsimp only at hlt hs
    have hmin : min cursor (rows.length - 1) = cursor := by omega
    simp only [reconcile, hmin, hs, List.getElem?_eq_getElem hlt, Option.map_some]

theorem Agrees.congr (h : page.Agrees rows) (hc : page'.cursor = page.cursor)
    (hs : page'.selection = page.selection) : page'.Agrees rows := by
  unfold Agrees
  simp only [hc, hs]
  exact h

theorem Agrees.selection (h : page.Agrees rows) :
    (∀ ref, page.selection = some ref → ∃ row ∈ rows, row.ref = ref) ∧
      (page.selection = none ↔ rows = []) := by
  by_cases hn : rows = []
  · obtain ⟨-, hs⟩ := h.1 hn
    exact ⟨fun ref hr => (by cases hs.symm.trans hr), fun _ => hn, fun _ => hs⟩
  · obtain ⟨hlt, hs⟩ := h.2 hn
    refine ⟨fun ref hr => ⟨_, List.getElem_mem hlt, ?_⟩, fun hnone => ?_, fun he => absurd he hn⟩
    · exact Option.some.inj (hs.symm.trans hr)
    · cases hs.symm.trans hnone

/-- An event moves cursor and selection only by bringing the page in line with its table. -/
theorem Step.agrees (hs : Step c page event page' output) (h : page.Agrees c.rows) :
    page'.Agrees c.rows := by
  cases hs with
  | revisit _ _ | move _ | refresh => exact agrees_reconcile _ _
  | browse _ _ => exact (agrees_reconcile page c.rows).congr rfl rfl
  | begin hsub _ | busy hsub _ => cases hsub <;> exact h.congr rfl rfl
  | _ => exact h.congr rfl rfl

theorem Step.agrees_of_refresh (hs : Step c page (.listRefreshed kind) page' output) :
    page'.Agrees c.rows := by
  cases hs with
  | refresh => exact agrees_reconcile page c.rows

end Page

namespace Board

variable {board : Board} {kind : Kind}

def Agrees (board : Board) (kind : Kind) : Prop := (board.page kind).Agrees (board.rows kind)

theorem rows_handle (board : Board) (event : Event) (kind : Kind) :
    (board.handle event).board.rows kind = board.rows kind := by
  rw [rows, rows, handle_tables]

theorem Agrees.replaceRows_of_ne {other : Kind} (h : board.Agrees kind) (hk : kind ≠ other)
    (rows : List Row) : (board.replaceRows other rows).Agrees kind := by
  have hrows : (board.replaceRows other rows).rows kind = board.rows kind :=
    (PerKind.get_set board.tables other kind rows).trans (if_neg hk)
  unfold Agrees
  rw [hrows]
  exact h

theorem Agrees.handle (h : board.Agrees kind) (event : Event) :
    (board.handle event).board.Agrees kind := by
  unfold Agrees
  rw [rows_handle]
  by_cases ha : board.addressee event = some kind
  · obtain ⟨notice, hs, -⟩ := handle_step ha
    exact hs.agrees h
  · obtain hp | ⟨-, hp⟩ := handle_page_of_ne ha
    · rw [hp]
      exact h
    · rw [hp]
      exact Page.agrees_reconcile _ _

theorem agrees_handle_listRefreshed (board : Board) (kind : Kind) :
    (board.handle (.listRefreshed kind)).board.Agrees kind := by
  unfold Agrees
  rw [rows_handle]
  have ha : board.addressee (.listRefreshed kind) = some kind := rfl
  obtain ⟨notice, hs, -⟩ := handle_step ha
  exact hs.agrees_of_refresh

end Board

end Deckhand
