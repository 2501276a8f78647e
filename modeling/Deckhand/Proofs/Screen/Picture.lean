import Mathlib.Data.List.Basic
import Mathlib.Order.Nat
import Deckhand.Screen.Dialogs

namespace Deckhand.Screen

namespace Rect

/-- The rectangle lies in the area. An empty one lies where its corner and size say. -/
structure Inside (rect area : Rect) : Prop where
  left : area.x ≤ rect.x
  right : rect.right ≤ area.right
  top : area.y ≤ rect.y
  bottom : rect.bottom ≤ area.bottom

variable {rect area other : Rect} {x y : Nat}

theorem contains_iff : rect.contains x y = true ↔
    rect.x ≤ x ∧ x < rect.right ∧ rect.y ≤ y ∧ y < rect.bottom := by
  simp [contains, and_assoc]

theorem Inside.contains (h : rect.Inside area) (hc : rect.contains x y = true) :
    area.contains x y = true := by
  obtain ⟨hx, hr, hy, hb⟩ := contains_iff.mp hc
  exact contains_iff.mpr ⟨h.left.trans hx, hr.trans_le h.right, h.top.trans hy,
    hb.trans_le h.bottom⟩

theorem Inside.trans (h : rect.Inside area) (h' : area.Inside other) : rect.Inside other where
  left := h'.left.trans h.left
  right := h.right.trans h'.right
  top := h'.top.trans h.top
  bottom := h.bottom.trans h'.bottom

theorem inside_centered (area : Rect) (width height : Nat) :
    (area.centered width height).Inside area := by
  have hw := Nat.min_le_right width area.width
  have hh := Nat.min_le_right height area.height
  constructor <;> simp only [centered, Rect.right, Rect.bottom] <;> omega

theorem centered_congr {width height height' : Nat}
    (h : min height area.height = min height' area.height) :
    area.centered width height = area.centered width height' := by
  simp only [centered, h]

theorem inside_interior (rect : Rect) : rect.interior.Inside rect := by
  constructor <;> simp only [interior, dropTop, dropLeft, Rect.right, Rect.bottom] <;> omega

theorem inside_dropTop (rect : Rect) (count : Nat) : (rect.dropTop count).Inside rect := by
  constructor <;> simp only [dropTop, Rect.right, Rect.bottom] <;> omega

theorem inside_dropBottom (rect : Rect) (count : Nat) : (rect.dropBottom count).Inside rect := by
  constructor <;> simp only [dropBottom, Rect.right, Rect.bottom] <;> omega

theorem inside_lastLine (rect : Rect) : rect.lastLine.Inside rect := by
  constructor <;> simp only [lastLine, line, Rect.right, Rect.bottom] <;> omega

end Rect

namespace Picture

variable {picture other : Picture} {rect area : Rect} {x y : Nat}

def Confined (picture : Picture) (rect : Rect) : Prop :=
  ∀ mark ∈ picture, rect.contains mark.x mark.y = true

theorem confined_within (picture : Picture) (rect : Rect) : (picture.within rect).Confined rect :=
  fun _ => contains_of_mem_within

theorem Confined.append (h : picture.Confined rect) (h' : other.Confined rect) :
    Confined (picture ++ other) rect :=
  List.forall_mem_append.mpr ⟨h, h'⟩

theorem Confined.mono (h : picture.Confined rect) (hi : rect.Inside area) :
    picture.Confined area :=
  fun mark hm => hi.contains (h mark hm)

theorem confined_fill (rect : Rect) (change : Change) : (fill rect change).Confined rect := by
  intro mark hm
  obtain ⟨dy, hy, hrow⟩ := List.mem_flatMap.mp hm
  obtain ⟨dx, hx, rfl⟩ := List.mem_map.mp hrow
  rw [List.mem_range] at hx hy
  exact Rect.contains_iff.mpr ⟨Nat.le_add_right _ _, Nat.add_lt_add_left hx _,
    Nat.le_add_right _ _, Nat.add_lt_add_left hy _⟩

theorem cellAt_append (picture other : Picture) (x y : Nat) (cell : Cell) :
    cellAt (picture ++ other) x y cell = other.cellAt x y (picture.cellAt x y cell) :=
  List.foldl_append

theorem Confined.cellAt (h : picture.Confined rect) (hc : ¬ rect.contains x y = true)
    (cell : Cell) : picture.cellAt x y cell = cell := by
  induction picture generalizing cell with
  | nil => rfl
  | cons mark rest ih =>
    obtain ⟨hmark, hrest⟩ := List.forall_mem_cons.mp h
    have hne : ¬ (mark.x = x ∧ mark.y = y) := by
      rintro ⟨rfl, rfl⟩
      exact hc hmark
    rw [Picture.cellAt, List.foldl_cons, if_neg hne]
    exact ih hrest cell

theorem cellAt_singleton (mark : Mark) (x y : Nat) (cell : Cell) :
    cellAt [mark] x y cell =
      if mark.x = x ∧ mark.y = y then cell.change mark.change else cell := rfl

theorem cellAt_row (left top width : Nat) (change : Change) (x y : Nat) (cell : Cell) :
    cellAt ((List.range width).map fun dx => ⟨left + dx, top, change⟩) x y cell =
      if (left ≤ x ∧ x < left + width) ∧ top = y then cell.change change else cell := by
  induction width with
  | zero =>
    rw [if_neg (by omega)]
    rfl
  | succ width ih =>
    rw [List.range_succ, List.map_append, cellAt_append, ih, List.map_singleton, cellAt_singleton]
    by_cases hlast : left + width = x ∧ top = y
    · rw [if_pos hlast, if_neg (by omega), if_pos (by omega)]
    · rw [if_neg hlast]
      exact if_congr (by omega) rfl rfl

theorem cellAt_fill (rect : Rect) (change : Change) (x y : Nat) (cell : Cell) :
    (fill rect change).cellAt x y cell =
      if rect.contains x y then cell.change change else cell := by
  obtain ⟨left, top, width, height⟩ := rect
  simp only [Rect.contains_iff, Rect.right, Rect.bottom, fill]
  induction height with
  | zero =>
    rw [if_neg (by omega)]
    rfl
  | succ height ih =>
    rw [List.range_succ, List.flatMap_append, cellAt_append, ih, List.flatMap_singleton, cellAt_row]
    by_cases hlast : (left ≤ x ∧ x < left + width) ∧ top + height = y
    · rw [if_pos hlast, if_neg (by omega), if_pos (by omega)]
    · rw [if_neg hlast]
      exact if_congr (by omega) rfl rfl

/-- Over a cleared rectangle a picture looks the same whatever was there before. -/
theorem cellAt_clear_append (h : rect.contains x y = true) (picture : Picture) (cell : Cell) :
    cellAt (clear rect ++ picture) x y cell = picture.cellAt x y .blank := by
  rw [cellAt_append, clear, cellAt_fill, if_pos h]
  rfl

end Picture

namespace Canvas

theorem place_lt_iff {width height x y : Nat} (hx : x < width) :
    y * width + x < width * height ↔ y < height := by
  rw [Nat.mul_comm width height]
  constructor
  · intro h
    by_contra hy
    have hle := Nat.mul_le_mul_right width (Nat.le_of_not_lt hy)
    omega
  · intro hy
    have hle := Nat.mul_le_mul_right width (Nat.succ_le_of_lt hy)
    rw [Nat.succ_mul] at hle
    omega

theorem cell?_blank {width height x y : Nat} (hx : x < width) (hy : y < height) :
    (blank width height).cell? x y = some .blank := by
  have hplace := (place_lt_iff hx).mpr hy
  simp [cell?, blank, hx, hplace]

theorem getElem?_shownFrom_succ (covered : Bool) (cells : List Cell) (i : Nat) :
    (shownFrom covered cells)[i + 1]? =
      cells[i + 1]?.map fun cell => if cells[i]?.any (·.isWide) then .blank else cell := by
  induction cells generalizing covered i with
  | nil => rfl
  | cons first rest ih =>
    cases i with
    | zero =>
      cases rest with
      | nil => rfl
      | cons second rest => simp [shownFrom]
    | succ i => exact ih first.isWide i

theorem getElem?_chunks (width : Nat) (cells : List Cell) {count y : Nat} (hy : y < count) :
    (chunks width cells count)[y]? = some ((cells.drop (y * width)).take width) := by
  induction count generalizing cells y with
  | zero => omega
  | succ count ih =>
    cases y with
    | zero => simp [chunks]
    | succ y =>
      rw [chunks, List.getElem?_cons_succ, ih _ (Nat.lt_of_succ_lt_succ hy), List.drop_drop,
        Nat.succ_mul, Nat.add_comm]

theorem size_mark (canvas : Canvas) (mark : Mark) :
    (canvas.mark mark).width = canvas.width ∧ (canvas.mark mark).height = canvas.height := by
  unfold Canvas.mark
  split <;> exact ⟨rfl, rfl⟩

theorem size_paint (canvas : Canvas) (picture : Picture) :
    (canvas.paint picture).width = canvas.width ∧
      (canvas.paint picture).height = canvas.height := by
  induction picture generalizing canvas with
  | nil => exact ⟨rfl, rfl⟩
  | cons mark rest ih =>
    obtain ⟨hw, hh⟩ := size_mark canvas mark
    obtain ⟨hw', hh'⟩ := ih (canvas.mark mark)
    exact ⟨hw'.trans hw, hh'.trans hh⟩

def shownCell? (canvas : Canvas) (x y : Nat) : Option Cell :=
  canvas.shown[y]?.bind (·[x]?)

theorem shownCell?_succ (canvas : Canvas) {x y : Nat} (hx : x + 1 < canvas.width)
    (hy : y < canvas.height) :
    canvas.shownCell? (x + 1) y =
      (canvas.cell? (x + 1) y).map fun cell =>
        if (canvas.cell? x y).any (·.isWide) then .blank else cell := by
  have hx' : x < canvas.width := by omega
  unfold shownCell? shown cell?
  rw [getElem?_chunks _ _ hy, if_pos hx, if_pos hx']
  simp only [Option.bind_some, List.getElem?_take, if_pos hx, List.getElem?_drop]
  rw [← Nat.add_assoc, getElem?_shownFrom_succ]
  simp

end Canvas

end Deckhand.Screen
