import Mathlib.Data.List.Forall2
import Deckhand.Host.Podman.Tables
import Deckhand.Proofs.Text.Words

namespace Deckhand.Podman

def slice? (words : List String) (start stop : Nat) : Option (List String) :=
  if start ≤ stop ∧ stop ≤ words.length then some ((words.take stop).drop start) else none

/-- The cells of a line, unless it is cut where there is nothing to cut. -/
def slicedCells? (width : Nat) (words : List String) : Option (List String) :=
  if words.length ≤ width then some words
  else match width with
    | 0 => none
    | last + 1 => do
      let own ← slice? words 0 last
      let rest ← slice? words last words.length
      some (own ++ [" ".intercalate rest])

/-- The cells hold the words of a line under so many headers: the last one all that are left, each
other one a word of its own. -/
structure Holds (headers : Nat) (words cells : List String) : Prop where
  length : cells.length = min words.length headers
  own : cells.take (min words.length headers - 1) = words.take (min words.length headers - 1)
  joined : " ".intercalate cells = " ".intercalate words

inductive Tells : List String → Report → Prop where
  | blank {lines} : (∀ line ∈ lines, Text.IsBlank line) → Tells lines ⟨[], []⟩
  | table {blanks header lines rows} : (∀ line ∈ blanks, Text.IsBlank line) →
      ¬ Text.IsBlank header → Text.words header ≠ [] →
      List.Forall₂ (fun line cells => Holds (Text.words header).length (Text.words line) cells)
        (lines.filter (¬ Text.IsBlank ·)) rows →
      Tells (blanks ++ header :: lines) ⟨Text.words header, rows⟩

variable {width : Nat} {words : List String} {line : String}

theorem not_isBlankLine_iff : (!isBlankLine line) = true ↔ ¬ Text.IsBlank line := by
  rw [← Text.trim_eq_empty_iff, isBlankLine, Bool.not_eq_true', ← Bool.not_eq_true,
    String.isEmpty_iff]

theorem slicedCells?_eq (hw : 0 < width) (words : List String) :
    slicedCells? width words = some (alignedCells width words) := by
  unfold slicedCells? alignedCells
  split
  · rfl
  · rename_i hlong
    obtain ⟨last, rfl⟩ := Nat.exists_eq_succ_of_ne_zero hw.ne'
    have hown : slice? words 0 last = some (words.take last) := if_pos (by omega)
    have hrest : slice? words last words.length = some (words.drop last) := by
      rw [slice?, if_pos (by omega), List.take_length]
    simp [hown, hrest]

theorem intercalate_append_last (separator : String) (first : List String) {last : List String}
    (h : last ≠ []) : separator.intercalate (first ++ [separator.intercalate last]) =
      separator.intercalate (first ++ last) := by
  by_cases hf : first = []
  · rw [hf, List.nil_append, List.nil_append, String.intercalate_singleton]
  · rw [String.intercalate_append_of_ne_nil hf (List.cons_ne_nil _ _),
      String.intercalate_append_of_ne_nil hf h, String.intercalate_singleton]

theorem holds_alignedCells (hw : 0 < width) (words : List String) :
    Holds width words (alignedCells width words) := by
  unfold alignedCells
  split
  · rename_i hshort
    exact ⟨(Nat.min_eq_left hshort).symm, rfl, rfl⟩
  · rename_i hlong
    have hmin : min words.length width = width := Nat.min_eq_right (by omega)
    have hown : (words.take (width - 1)).length = width - 1 := List.length_take_of_le (by omega)
    have hrest : words.drop (width - 1) ≠ [] := List.drop_eq_nil_iff.not.mpr (by omega)
    constructor
    · rw [hmin, List.length_append, hown, List.length_singleton]
      omega
    · rw [hmin, List.take_append_of_le_length hown.ge, List.take_take, Nat.min_self]
    · rw [intercalate_append_last " " _ hrest, List.take_append_drop]

theorem tells_aligned (text : String) : Tells (Text.lines text) (aligned text) := by
  unfold aligned
  split
  · rename_i hnone
    refine .blank fun line hl => ?_
    by_contra hb
    exact List.filter_eq_nil_iff.mp hnone line hl (not_isBlankLine_iff.mpr hb)
  · rename_i header rows hsome
    obtain ⟨blanks, lines, hlines, hblanks, hheader, hrows⟩ := List.filter_eq_cons_iff.mp hsome
    have hne := Text.words_eq_nil_iff.not.mpr (not_isBlankLine_iff.mp hheader)
    rw [hlines]
    refine .table (fun line hl => ?_) (not_isBlankLine_iff.mp hheader) hne ?_
    · by_contra hb
      exact hblanks line hl (not_isBlankLine_iff.mpr hb)
    · have hfilter : lines.filter (¬ Text.IsBlank ·) = rows := by
        rw [← hrows]
        exact List.filter_congr fun line _ => by
          rw [Bool.eq_iff_iff, not_isBlankLine_iff, decide_eq_true_iff]
      have hpos : 0 < (Text.words header).length := List.length_pos_iff.mpr hne
      rw [hfilter, List.forall₂_map_right_iff, Nat.max_eq_left hpos]
      exact List.forall₂_same.mpr fun line _ => holds_alignedCells hpos (Text.words line)

/-- A table that is aligned by blanks is told whole, and no line of any length under any number of
headers is cut out of range. -/
theorem aligned_loses_nothing (text : String) :
    Tells (Text.lines text) (aligned text) ∧ ∀ headers words,
      slicedCells? (max headers 1) words = some (alignedCells (max headers 1) words) :=
  ⟨tells_aligned text, fun headers words => slicedCells?_eq (Nat.le_max_right headers 1) words⟩

example : aligned "\n PID COMMAND\n1 nginx: master  process\n \n7\n" =
    ⟨["PID", "COMMAND"], [["1", "nginx: master process"], ["7"]]⟩ := by decide

end Deckhand.Podman
