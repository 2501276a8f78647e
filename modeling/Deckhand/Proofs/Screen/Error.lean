import Deckhand.Proofs.Screen.Picture
import Deckhand.Screen.Draw

namespace Deckhand

namespace Screen

def errorRect (notice : Notice) (width height : Nat) : Rect :=
  (errorBox notice (middle ⟨0, 0, width, height⟩)).rect

/-- A number held at the greatest of sixteen bits. -/
def held (n : Nat) : UInt16 := UInt16.ofNat (min n 65535)

structure ShortRect where
  x : UInt16
  y : UInt16
  width : UInt16
  height : UInt16

namespace ShortRect

def toRect (rect : ShortRect) : Rect :=
  ⟨rect.x.toNat, rect.y.toNat, rect.width.toNat, rect.height.toNat⟩

def centered (area : ShortRect) (width height : UInt16) : ShortRect :=
  let width := min width area.width
  let height := min height area.height
  ⟨area.x + (area.width - width) / 2, area.y + (area.height - height) / 2, width, height⟩

/-- Where the box of an error stands. The number of lines is held, and so is its sum with the four
around them. -/
def errorRect (area : ShortRect) (notice : Notice) : ShortRect :=
  area.centered 70 (held ((held (max (Text.lineCount notice.message) 1)).toNat + 4))

end ShortRect

/-- The box of an error lies between the tabs and the hints. Sixteen bits are enough to find its
place, however many lines the message has. -/
structure BoxFits (notice : Notice) (width height : Nat) : Prop where
  inside : (errorRect notice width height).Inside (middle ⟨0, 0, width, height⟩)
  between : ∀ x y, (errorRect notice width height).contains x y = true →
    x < width ∧ 0 < y ∧ y + 1 < height
  seen : 0 < width → (errorRect notice width height).isEmpty = false
  short : width < 65536 → height < 65536 →
    (ShortRect.errorRect ⟨0, 1, .ofNat width, .ofNat (height - 2)⟩ notice).toRect =
      errorRect notice width height

section

variable {short : ShortRect}

theorem toNat_held (n : Nat) : (held n).toNat = min n 65535 :=
  UInt16.toNat_ofNat_of_lt' (Nat.lt_of_le_of_lt (Nat.min_le_right n 65535) (by decide))

theorem toNat_min (m n : UInt16) : (min m n).toNat = min m.toNat n.toNat := by
  have hmin : min m n = if m ≤ n then m else n := rfl
  rw [hmin, Nat.min_def, apply_ite UInt16.toNat]
  rfl

theorem toNat_middle {start length part : UInt16} (h : start.toNat + length.toNat < 65536)
    (hp : part.toNat ≤ length.toNat) :
    (start + (length - part) / 2).toNat = start.toNat + (length.toNat - part.toNat) / 2 := by
  have hsub := UInt16.toNat_sub_of_le length part (UInt16.le_iff_toNat_le.mpr hp)
  have htwo : (2 : UInt16).toNat = 2 := rfl
  rw [UInt16.toNat_add, UInt16.toNat_div, hsub, htwo]
  omega

theorem ShortRect.toRect_centered (hr : short.toRect.right < 65536)
    (hb : short.toRect.bottom < 65536) (width height : UInt16) :
    (short.centered width height).toRect = short.toRect.centered width.toNat height.toNat := by
  have hle (m n : UInt16) : (min m n).toNat ≤ n.toNat := by
    rw [toNat_min]
    exact Nat.min_le_right _ _
  have hx := toNat_middle hr (hle width short.width)
  have hy := toNat_middle hb (hle height short.height)
  simp only [ShortRect.centered, ShortRect.toRect, Rect.centered, hx, hy, toNat_min]

/-- However long a message is, holding the number of its lines does not move the box. -/
theorem ShortRect.toRect_errorRect (hr : short.toRect.right < 65536)
    (hb : short.toRect.bottom < 65536) (notice : Notice) :
    (short.errorRect notice).toRect = (errorBox notice short.toRect).rect := by
  have hlt := short.height.toNat_lt
  have hseventy : (70 : UInt16).toNat = 70 := rfl
  rw [ShortRect.errorRect, toRect_centered hr hb, toNat_held, toNat_held, hseventy]
  refine Rect.centered_congr ?_
  change min _ short.height.toNat = min _ short.height.toNat
  omega

end

variable {notice : Notice} {area : Rect} {x y width height : Nat}

theorem inside_errorBox (notice : Notice) (area : Rect) :
    (errorBox notice area).rect.Inside area :=
  Rect.inside_centered area _ _

theorem middle_screen (hh : 3 ≤ height) :
    middle ⟨0, 0, width, height⟩ = ⟨0, 1, width, height - 2⟩ := by
  have htop : 0 + min 1 height = 1 := by omega
  have hrest : height - 1 - 1 = height - 2 := Nat.sub_sub height 1 1
  simp only [middle, Rect.dropTop, Rect.dropBottom, htop, hrest]

theorem toRect_middle (hw : width < 65536) (hh : 3 ≤ height) (hh' : height < 65536) :
    ShortRect.toRect ⟨0, 1, .ofNat width, .ofNat (height - 2)⟩ =
      middle ⟨0, 0, width, height⟩ := by
  have hwidth : (UInt16.ofNat width).toNat = width := UInt16.toNat_ofNat_of_lt' hw
  have hheight : (UInt16.ofNat (height - 2)).toNat = height - 2 :=
    UInt16.toNat_ofNat_of_lt' (Nat.lt_of_le_of_lt (Nat.sub_le height 2) hh')
  simp only [ShortRect.toRect, hwidth, hheight, middle_screen hh]
  rfl

theorem boxFits (hh : 3 ≤ height) (notice : Notice) (width : Nat) :
    BoxFits notice width height where
  inside := inside_errorBox notice _
  between := by
    intro x y hc
    have hm := (inside_errorBox notice _).contains hc
    rw [middle_screen hh, Rect.contains_iff] at hm
    simp only [Rect.right, Rect.bottom] at hm
    omega
  seen := by
    intro hw
    simp only [errorRect, errorBox, middle_screen hh, Rect.centered, Rect.isEmpty,
      Bool.or_eq_false_iff, decide_eq_false_iff_not]
    omega
  short := by
    intro hw hh'
    have hrect := toRect_middle hw hh hh'
    have hright : Rect.right ⟨0, 1, width, height - 2⟩ < 65536 := by
      simp only [Rect.right]
      omega
    have hbottom : Rect.bottom ⟨0, 1, width, height - 2⟩ < 65536 := by
      simp only [Rect.bottom]
      omega
    rw [← middle_screen hh, ← hrect] at hright hbottom
    rw [ShortRect.toRect_errorRect hright hbottom, hrect]
    rfl

theorem not_contains_lastLine (h : (middle area).contains x y = true) :
    ¬ area.lastLine.contains x y = true := by
  rw [Rect.contains_iff] at h ⊢
  simp only [middle, Rect.dropTop, Rect.dropBottom, Rect.lastLine, Rect.line, Rect.right,
    Rect.bottom] at h ⊢
  omega

theorem confined_text (lines : List Line) (area : Rect) : (text lines area).Confined area :=
  Picture.confined_within _ area

theorem confined_notification (notification : Notification) (area : Rect) :
    (Screen.notification notification area).Confined area :=
  (Picture.confined_fill area .clear).append (confined_text _ area)

def errorContents (notice : Notice) (area : Rect) : Picture :=
  let box := errorBox notice area
  Picture.within (box.border ++ box.caption) box.rect ++
    (Paragraph.picture
        { lines := Line.ofLines notice.message, style := .inColor .red, wraps := true }
        (box.inside.dropBottom 1) ++
      buttons ["OK"] (some 0) box.inside.lastLine)

theorem error_eq (notice : Notice) (area : Rect) :
    error notice area = Picture.clear (errorBox notice area).rect ++ errorContents notice area := by
  simp [error, errorContents, Box.picture]

theorem confined_error (notice : Notice) (area : Rect) :
    (error notice area).Confined (errorBox notice area).rect := by
  have hinside : (errorBox notice area).inside.Inside (errorBox notice area).rect :=
    Rect.inside_interior _
  have hmessage := (Rect.inside_dropBottom (errorBox notice area).inside 1).trans hinside
  have hbutton := (Rect.inside_lastLine (errorBox notice area).inside).trans hinside
  rw [error_eq]
  refine (Picture.confined_fill _ .clear).append ((Picture.confined_within _ _).append ?_)
  exact ((Picture.confined_within _ _).mono hmessage).append ((confined_text _ _).mono hbutton)

theorem cellAt_error (h : (errorBox notice area).rect.contains x y = true) (cell : Cell) :
    (error notice area).cellAt x y cell = (errorContents notice area).cellAt x y .blank := by
  rw [error_eq]
  exact Picture.cellAt_clear_append h _ cell

end Screen

open Screen

namespace View

variable {view other : View} {notice : Notice} {area : Rect} {x y width height : Nat}

def below (view : View) (area : Rect) : Picture :=
  Screen.tabs view.tabs view.active (area.line 0) ++
    Screen.table view.table (middle area) ++
    hintBar view.focus area.lastLine ++
    view.dialog.elim [] (Screen.dialog · (middle area))

def above (view : View) (area : Rect) : Picture :=
  view.notification.elim [] (Screen.notification · area.lastLine)

theorem picture_eq (h : 3 ≤ area.height) (view : View) :
    view.picture area =
      view.below area ++ view.error.elim [] (Screen.error · (middle area)) ++ view.above area :=
  if_neg (Nat.not_lt.mpr h)

theorem confined_above (view : View) (area : Rect) : (view.above area).Confined area.lastLine := by
  unfold above
  cases view.notification with
  | none => exact List.forall_mem_nil _
  | some notification => exact confined_notification notification _

/-- Inside the box of an error nothing is seen but the error. -/
theorem cellAt_picture_of_error (h : 3 ≤ area.height) (he : view.error = some notice)
    (hc : (errorBox notice (middle area)).rect.contains x y = true) (cell : Cell) :
    (view.picture area).cellAt x y cell =
      (errorContents notice (middle area)).cellAt x y .blank := by
  have hmiddle := (inside_errorBox notice (middle area)).contains hc
  have habove := (confined_above view area).cellAt (not_contains_lastLine hmiddle)
  rw [picture_eq h, he, Picture.cellAt_append, Picture.cellAt_append, habove]
  exact cellAt_error hc _

theorem cell?_draw (view : View) {x y : Nat} (hx : x < width) (hy : y < height) :
    (view.draw width height).cell? x y =
      some ((view.picture ⟨0, 0, width, height⟩).cellAt x y .blank) := by
  rw [draw, Canvas.cell?_paint, Canvas.cell?_blank hx hy]
  rfl

theorem cell?_draw_of_error (hh : 3 ≤ height) (h : view.error = some notice)
    (hc : (errorRect notice width height).contains x y = true) :
    (view.draw width height).cell? x y =
      some ((errorContents notice (middle ⟨0, 0, width, height⟩)).cellAt x y .blank) := by
  obtain ⟨hx, -, hy⟩ := (boxFits hh notice width).between x y hc
  rw [cell?_draw view hx (Nat.lt_of_succ_lt hy), cellAt_picture_of_error hh h hc]

theorem cell?_draw_outside (h : view.error = some notice)
    (hc : ¬ (errorRect notice width height).contains x y = true) :
    (view.draw width height).cell? x y =
      ({ view with error := none }.draw width height).cell? x y := by
  rw [draw, draw, Canvas.cell?_paint, Canvas.cell?_paint]
  congr 1
  funext cell
  by_cases hh : 3 ≤ height
  · have herror := (confined_error notice (middle ⟨0, 0, width, height⟩)).cellAt hc
    rw [picture_eq hh, picture_eq hh, h, Picture.cellAt_append, Picture.cellAt_append,
      Picture.cellAt_append, Picture.cellAt_append]
    exact congrArg _ (herror _)
  · have hlt : height < 3 := Nat.lt_of_not_le hh
    simp [picture, hlt]

/-- Whatever else two boards show, an error that both have is the same on both screens, cell by cell
as over a blank one, and its box covers neither the tabs nor the hints. -/
theorem error_wins_screen (view other : View) (width : Nat) (hh : 3 ≤ height)
    (h : view.error = some notice) (h' : other.error = some notice) :
    BoxFits notice width height ∧
    ∀ x y, (errorRect notice width height).contains x y = true →
      (view.draw width height).cell? x y =
          some ((errorContents notice (middle ⟨0, 0, width, height⟩)).cellAt x y .blank) ∧
        (other.draw width height).cell? x y =
          some ((errorContents notice (middle ⟨0, 0, width, height⟩)).cellAt x y .blank) :=
  ⟨boxFits hh notice width,
    fun _ _ hc => ⟨cell?_draw_of_error hh h hc, cell?_draw_of_error hh h' hc⟩⟩

/-- What a terminal shows inside the box is the same, too, but for its left side: a cell of it is
covered when a wide symbol stands before it. -/
theorem shownCell?_draw_eq (hh : 3 ≤ height) (h : view.error = some notice)
    (h' : other.error = some notice) (hc : (errorRect notice width height).contains x y = true)
    (hc' : (errorRect notice width height).contains (x + 1) y = true) :
    (view.draw width height).shownCell? (x + 1) y =
      (other.draw width height).shownCell? (x + 1) y := by
  obtain ⟨hx, -, hy⟩ := (boxFits hh notice width).between (x + 1) y hc'
  have hsize (view : View) := Canvas.size_paint (Canvas.blank width height)
    (view.picture ⟨0, 0, width, height⟩)
  have hx' (view : View) : x + 1 < (view.draw width height).width := hx.trans_eq (hsize view).1.symm
  have hy' (view : View) : y < (view.draw width height).height :=
    (Nat.lt_of_succ_lt hy).trans_eq (hsize view).2.symm
  rw [Canvas.shownCell?_succ _ (hx' view) (hy' view),
    Canvas.shownCell?_succ _ (hx' other) (hy' other), cell?_draw_of_error hh h hc,
    cell?_draw_of_error hh h hc', cell?_draw_of_error hh h' hc, cell?_draw_of_error hh h' hc']

def podRunning : Notice := ⟨some "POD (9a) REMOVE ERROR", "pod is running\nstop it first"⟩

def quietView : View where
  tabs := ["Pods"]
  active := 0
  table := ⟨["ID", "NAME"], [["9a", "web"]], 0⟩
  error := some podRunning
  dialog := none
  focus := .error
  notification := none

def busyView : View where
  tabs := []
  active := 3
  table := ⟨[], [], 0⟩
  error := some podRunning
  dialog := some (.progress ⟨"image pull in progress", ⟨1⟩⟩)
  focus := .dialog .progress
  notification := some (.info "pruned")

theorem pod_error_wins_screen :
    3 ≤ 24 ∧ quietView.error = some podRunning ∧ busyView.error = some podRunning ∧
    BoxFits podRunning 80 24 ∧ (errorRect podRunning 80 24).contains 40 12 = true ∧
    (quietView.draw 80 24).cell? 40 12 =
      some ((errorContents podRunning (middle ⟨0, 0, 80, 24⟩)).cellAt 40 12 .blank) ∧
    (busyView.draw 80 24).cell? 40 12 =
      some ((errorContents podRunning (middle ⟨0, 0, 80, 24⟩)).cellAt 40 12 .blank) := by
  have hc : (errorRect podRunning 80 24).contains 40 12 = true := by decide
  have hheight : 3 ≤ 24 := by decide
  obtain ⟨hfits, hcells⟩ := error_wins_screen quietView busyView 80 hheight rfl rfl
  exact ⟨hheight, rfl, rfl, hfits, hc, hcells 40 12 hc⟩

end View

end Deckhand
