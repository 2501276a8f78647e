import Deckhand.Dialog.Pager
import Deckhand.Proofs.Text.Lines

namespace Deckhand.Pager

inductive Move where
  | down
  | up

def move (pager : Pager) : Move → Pager
  | .down => pager.down
  | .up => pager.up

def follow (pager : Pager) (moves : List Move) : Pager := moves.foldl move pager

/-- The last line of a text of so many lines, or the last one that 16 bits can count. -/
def farthest (lines : Nat) : Nat := min (lines - 1) 65535

/-- From where the pager is, every move goes one line on, unless that is the end of the text. -/
structure Moves (lines : Nat) (pager : Pager) : Prop where
  counts : pager.overflows = false
  down : pager.down.scroll =
    if pager.scroll < farthest lines then pager.scroll + 1 else pager.scroll
  up : pager.up.scroll = if 0 < pager.scroll then pager.scroll - 1 else 0
  inside : pager.scroll ≤ lines - 1

structure ScrollsThrough (title text : String) : Prop where
  moves : ∀ moves, Moves (Text.lineCount text) ((new title text).follow moves)
  reaches : ((new title text).follow (List.replicate (farthest (Text.lineCount text)) .down)).scroll =
    farthest (Text.lineCount text)

variable {pager : Pager}

theorem overflows_eq_false_iff : pager.overflows = false ↔ pager.scroll < 65535 := by
  simp [overflows]

theorem text_move (pager : Pager) (m : Move) : (pager.move m).text = pager.text := by
  cases m <;> rfl

theorem text_follow (pager : Pager) (moves : List Move) :
    (pager.follow moves).text = pager.text := by
  induction moves generalizing pager with
  | nil => rfl
  | cons m moves ih => exact (ih (pager.move m)).trans (text_move pager m)

theorem limit_follow (pager : Pager) (moves : List Move) :
    (pager.follow moves).limit = pager.limit := by
  unfold limit
  rw [text_follow]

theorem limit_new (title text : String) :
    (new title text).limit = (Text.lineCount text - 1) % 65536 := rfl

theorem limit_lt (pager : Pager) : pager.limit < 65536 := Nat.mod_lt _ (by decide)

theorem limit_of_lt (h : Text.lineCount pager.text < 65536) :
    pager.limit = Text.lineCount pager.text - 1 := by
  unfold limit
  exact Nat.mod_eq_of_lt (Nat.lt_of_le_of_lt (Nat.sub_le _ _) h)

theorem scroll_down_of_lt (h : pager.scroll < pager.limit) :
    pager.down.scroll = pager.scroll + 1 := by
  have hlt := pager.limit_lt
  have hmod : (pager.scroll + 1) % Nat.pow 2 16 = pager.scroll + 1 :=
    Nat.mod_eq_of_lt (show pager.scroll + 1 < 65536 by omega)
  have hd : pager.down.scroll = min ((pager.scroll + 1) % Nat.pow 2 16) pager.limit := rfl
  rw [hd, hmod]
  omega

theorem scroll_down_le (pager : Pager) : pager.down.scroll ≤ pager.limit := Nat.min_le_right _ _

theorem scroll_move_le (h : pager.scroll ≤ pager.limit) (m : Move) :
    (pager.move m).scroll ≤ pager.limit := by
  cases m with
  | down => exact pager.scroll_down_le
  | up => exact Nat.le_trans (Nat.sub_le _ _) h

theorem scroll_follow_le (h : pager.scroll ≤ pager.limit) (moves : List Move) :
    (pager.follow moves).scroll ≤ pager.limit := by
  induction moves generalizing pager with
  | nil => exact h
  | cons m moves ih =>
    have hl : (pager.move m).limit = pager.limit := limit_follow pager [m]
    have hm : (pager.move m).scroll ≤ (pager.move m).limit := hl ▸ scroll_move_le h m
    exact hl ▸ ih hm

theorem scroll_follow_replicate (n : Nat) (h : pager.scroll + n ≤ pager.limit) :
    (pager.follow (List.replicate n .down)).scroll = pager.scroll + n := by
  induction n generalizing pager with
  | zero => rfl
  | succ n ih =>
    have hd : pager.down.scroll = pager.scroll + 1 := scroll_down_of_lt (by omega)
    have hl : pager.down.limit = pager.limit := limit_follow pager [.down]
    have hn : pager.down.scroll + n ≤ pager.down.limit := by omega
    rw [List.replicate_succ]
    exact (ih hn).trans (by omega)

theorem moves_of_lt (h : Text.lineCount pager.text < 65536) (hs : pager.scroll ≤ pager.limit) :
    Moves (Text.lineCount pager.text) pager := by
  have hlimit := limit_of_lt h
  have hfar : farthest (Text.lineCount pager.text) = pager.limit := by
    unfold farthest
    omega
  refine ⟨overflows_eq_false_iff.mpr (by omega), ?_, ?_, by omega⟩
  · rw [hfar]
    split
    · exact scroll_down_of_lt ‹_›
    · have hd : pager.down.scroll = min ((pager.scroll + 1) % Nat.pow 2 16) pager.limit := rfl
      have hmod : (pager.scroll + 1) % Nat.pow 2 16 = pager.scroll + 1 :=
        Nat.mod_eq_of_lt (show pager.scroll + 1 < 65536 by omega)
      rw [hd, hmod]
      omega
  · have hu : pager.up.scroll = pager.scroll - 1 := rfl
    rw [hu]
    split <;> omega

/-- A text scrolls through exactly if it has fewer than 65536 lines. With 65536 lines the last one is
reached, but one more press overflows; with more lines the limit itself is cut off. -/
theorem scrollsThrough_iff (title text : String) :
    ScrollsThrough title text ↔ Text.lineCount text < 65536 := by
  have hstart : (new title text).scroll ≤ (new title text).limit := Nat.zero_le _
  constructor
  · intro h
    by_contra hn
    have hfar : farthest (Text.lineCount text) = 65535 := by
      unfold farthest
      omega
    have hreaches := h.reaches
    have hcounts := (h.moves (List.replicate (farthest (Text.lineCount text)) .down)).counts
    rw [overflows_eq_false_iff, hreaches, hfar] at hcounts
    exact absurd hcounts (Nat.lt_irrefl _)
  · intro h
    have hlimit : (new title text).limit = Text.lineCount text - 1 := limit_of_lt h
    constructor
    · intro moves
      have htext := text_follow (new title text) moves
      have hs := scroll_follow_le hstart moves
      rw [← limit_follow _ moves] at hs
      have hlines : Text.lineCount ((new title text).follow moves).text < 65536 := by
        rw [htext]
        exact h
      have hm := moves_of_lt hlines hs
      rw [htext] at hm
      exact hm
    · have hfar : (new title text).scroll + farthest (Text.lineCount text) ≤
          (new title text).limit := by
        rw [hlimit]
        exact (Nat.zero_add _).trans_le (Nat.min_le_left _ _)
      exact (scroll_follow_replicate _ hfar).trans (Nat.zero_add _)

def log (n : Nat) : String := String.ofList ((List.replicate n ['x']).map (· ++ ['\n'])).flatten

theorem lineCount_log (n : Nat) : Text.lineCount (log n) = n := by
  have hpart : ∀ part ∈ List.replicate n ['x'], part = ['x'] :=
    fun part hp => List.eq_of_mem_replicate hp
  have hlines : Text.lineChars ((List.replicate n ['x']).map (· ++ ['\n'])).flatten =
      List.replicate n ['x'] :=
    Text.lineChars_terminated (fun part hp => by rw [hpart part hp]; decide)
      (fun part hp => by rw [hpart part hp]; decide)
  rw [Text.lineCount, log, String.toList_ofList, hlines, List.length_replicate]

theorem long_log_is_stuck : Text.lineCount (log 65537) = 65537 ∧
    (new "podman container logs" (log 65537)).down.scroll = 0 ∧
    ¬ ScrollsThrough "podman container logs" (log 65537) := by
  have hcount := lineCount_log 65537
  have hlimit : (new "podman container logs" (log 65537)).limit = 0 := by
    rw [limit_new, hcount]
  have hdown : (new "podman container logs" (log 65537)).down.scroll = 0 :=
    Nat.le_zero.mp (hlimit ▸ scroll_down_le _)
  refine ⟨hcount, hdown, fun h => ?_⟩
  have hfirst := (h.moves []).down
  rw [hcount] at hfirst
  have hone : (new "podman container logs" (log 65537)).down.scroll = 1 := hfirst
  cases hdown.symm.trans hone

end Deckhand.Pager
