import Mathlib.Data.List.Nodup
import Mathlib.Logic.Function.Iterate
import Deckhand.Proofs.Form.Focus

namespace Deckhand

namespace FormFocus

/-- The number of an element in a section with that many fields. -/
def place (count : Nat) : FormFocus → Nat
  | sections => 0
  | field index => index + 1
  | button index => count + 1 + index

def round (count : Nat) : List FormFocus :=
  (List.range count).map field ++ [button Form.cancelButton, button Form.submitButton, sections]

variable {count : Nat} {focus focus' : FormFocus}

theorem Within.place_lt (h : focus.Within count) : focus.place count < count + 3 := by
  cases focus with
  | sections => exact Nat.zero_lt_succ _
  | field index =>
    have hindex : index < count := h
    simp only [place]
    omega
  | button index =>
    have hindex : index < 2 := h
    simp only [place]
    omega

theorem Within.eq_of_place (h : focus.Within count) (h' : focus'.Within count)
    (hp : focus.place count = focus'.place count) : focus = focus' := by
  cases focus with
  | sections =>
    cases focus' with
    | sections => rfl
    | field other | button other =>
      simp only [place] at hp
      omega
  | field index =>
    have hindex : index < count := h
    cases focus' with
    | field other => rw [Nat.add_right_cancel hp]
    | sections | button other =>
      simp only [place] at hp
      omega
  | button index =>
    cases focus' with
    | button other => rw [Nat.add_left_cancel hp]
    | sections =>
      simp only [place] at hp
      omega
    | field other =>
      have hother : other < count := h'
      simp only [place] at hp
      omega

theorem mem_round_iff : focus ∈ round count ↔ focus.Within count := by
  cases focus with
  | sections => simp [round, Within]
  | field index => simp [round, Within]
  | button index =>
    have hbuttons : index = 0 ∨ index = 1 ↔ index < 2 := by omega
    simpa [round, Within, Form.cancelButton, Form.submitButton, Form.buttons] using hbuttons

theorem nodup_round (count : Nat) : (round count).Nodup := by
  have hfields : ((List.range count).map field).Nodup :=
    List.nodup_range.map fun _ _ he => field.inj he
  refine hfields.append (by decide) fun focus hf hr => ?_
  obtain ⟨index, -, rfl⟩ := List.mem_map.mp hf
  simp at hr

/-- One number comes after another on the round; the last is followed by the first. -/
def Follows (count place next : Nat) : Prop := next = place + 1 ∨ place = count + 2 ∧ next = 0

theorem Follows.eq_next {place next next' : Nat} (h : Follows count place next)
    (h' : Follows count place next') (hn : next < count + 3) (hn' : next' < count + 3) :
    next = next' := by
  unfold Follows at h h'
  omega

theorem Follows.eq_place {place place' next : Nat} (h : Follows count place next)
    (h' : Follows count place' next) : place = place' := by
  unfold Follows at h h'
  omega

end FormFocus

namespace Form

open FormFocus

theorem follows_advance (form : Form) (h : form.focus.Within form.activeFields.length) :
    Follows form.activeFields.length (form.focus.place form.activeFields.length)
      (form.advance.focus.place form.activeFields.length) := by
  unfold advance
  dsimp only
  generalize form.activeFields.length = count at h ⊢
  cases hf : form.focus with
  | sections =>
    dsimp only
    split
    · exact .inl rfl
    · obtain rfl : count = 0 := by omega
      exact .inl rfl
  | field index =>
    rw [hf] at h
    have hindex : index < count := h
    dsimp only
    split
    · exact .inl rfl
    · obtain rfl : count = index + 1 := by omega
      exact .inl rfl
  | button index =>
    rw [hf] at h
    have hindex : index < 2 := h
    obtain rfl | rfl : index = 0 ∨ index = 1 := by omega
    · exact .inl rfl
    · exact .inr ⟨rfl, rfl⟩

theorem follows_retreat (form : Form) (h : form.focus.Within form.activeFields.length) :
    Follows form.activeFields.length (form.retreat.focus.place form.activeFields.length)
      (form.focus.place form.activeFields.length) := by
  unfold retreat
  dsimp only
  generalize form.activeFields.length = count at h ⊢
  cases hf : form.focus with
  | sections => exact .inr ⟨rfl, rfl⟩
  | field index =>
    cases index with
    | zero => exact .inl rfl
    | succ index => exact .inl rfl
  | button index =>
    rw [hf] at h
    have hindex : index < 2 := h
    obtain rfl | rfl : index = 0 ∨ index = 1 := by omega
    · cases count with
      | zero => exact .inl rfl
      | succ count => exact .inl rfl
    · exact .inl rfl

variable {form : Form}

theorem retreat_advance (h : form.focus.Within form.activeFields.length) :
    form.advance.retreat = form := by
  have hwithin : form.advance.retreat.focus.Within form.activeFields.length :=
    within_retreat form.within_advance
  have hadvance := form.follows_advance h
  have hretreat := form.advance.follows_retreat form.within_advance
  have hfocus : form.advance.retreat.focus = form.focus :=
    hwithin.eq_of_place h (hretreat.eq_place hadvance)
  exact congrArg (fun focus => { form with focus }) hfocus

theorem advance_retreat (h : form.focus.Within form.activeFields.length) :
    form.retreat.advance = form := by
  have hwithin : form.retreat.advance.focus.Within form.activeFields.length :=
    form.retreat.within_advance
  have hretreat := form.follows_retreat h
  have hadvance := form.retreat.follows_advance (within_retreat h)
  have hfocus : form.retreat.advance.focus = form.focus :=
    hwithin.eq_of_place h (hadvance.eq_next hretreat hwithin.place_lt h.place_lt)
  exact congrArg (fun focus => { form with focus }) hfocus

theorem iterate_advance (hf : form.focus = .sections) {steps : Nat}
    (hs : steps < form.activeFields.length + 3) :
    ∃ focus, advance^[steps] form = { form with focus } ∧
      focus.Within form.activeFields.length ∧ focus.place form.activeFields.length = steps := by
  induction steps with
  | zero => exact ⟨.sections, by rw [← hf]; rfl, trivial, rfl⟩
  | succ steps ih =>
    obtain ⟨focus, he, hwithin, hplace⟩ := ih (by omega)
    have hnext : Follows form.activeFields.length (focus.place form.activeFields.length)
        ({ form with focus }.advance.focus.place form.activeFields.length) :=
      follows_advance { form with focus } hwithin
    refine ⟨_, by rw [Function.iterate_succ_apply', he]; rfl,
      within_advance { form with focus }, ?_⟩
    obtain hnext | ⟨hlast, -⟩ := hnext
    · rw [hnext, hplace]
    · omega

theorem focus_iterate_advance (hf : form.focus = .sections) (focus : FormFocus)
    (h : focus.Within form.activeFields.length) :
    (advance^[focus.place form.activeFields.length] form).focus = focus := by
  obtain ⟨reached, he, hwithin, hplace⟩ := iterate_advance hf h.place_lt
  rw [he]
  exact hwithin.eq_of_place h hplace

theorem focus_iterate_advance_back (hf : form.focus = .sections) :
    (advance^[form.activeFields.length + 3] form).focus = .sections := by
  obtain ⟨focus, he, hwithin, hplace⟩ := iterate_advance hf (Nat.lt_succ_self _)
  have hlast : FormFocus.Within form.activeFields.length (.button submitButton) :=
    Nat.one_lt_two
  obtain rfl := hwithin.eq_of_place hlast hplace
  rw [Function.iterate_succ_apply', he]
  rfl

theorem focuses_iterate_advance (hf : form.focus = .sections) :
    (List.range (form.activeFields.length + 3)).map
        (fun steps => (advance^[steps + 1] form).focus) =
      FormFocus.round form.activeFields.length := by
  have hfields : (List.range form.activeFields.length).map
      (fun steps => (advance^[steps + 1] form).focus) =
        (List.range form.activeFields.length).map .field :=
    List.map_congr_left fun index hindex =>
      focus_iterate_advance hf (.field index) (List.mem_range.mp hindex)
  have hcancel : (advance^[form.activeFields.length + 1] form).focus = .button cancelButton :=
    focus_iterate_advance hf (.button cancelButton) Nat.zero_lt_two
  have hsubmit : (advance^[form.activeFields.length + 2] form).focus = .button submitButton :=
    focus_iterate_advance hf (.button submitButton) Nat.one_lt_two
  have hback := focus_iterate_advance_back hf
  rw [List.range_succ, List.range_succ, List.range_succ]
  simp only [List.map_append, List.map_cons, List.map_nil, hfields, hcancel, hsubmit, hback,
    List.append_assoc, List.cons_append, List.nil_append, FormFocus.round]

/-- Going on and going back undo each other, stay within the section and change nothing but the
focus. From the list of sections a round comes to each field in order, to the cancelling button, to
the submitting one and back, and so to every element of the section exactly once. -/
theorem round_visits_each_element_once (form : Form)
    (h : form.focus.Within form.activeFields.length) :
    (form.advance.retreat = form ∧ form.retreat.advance = form) ∧
    (form.advance.focus.Within form.activeFields.length ∧
      form.retreat.focus.Within form.activeFields.length) ∧
    (form.advance = { form with focus := form.advance.focus } ∧
      form.retreat = { form with focus := form.retreat.focus }) ∧
    (form.focus = .sections →
      (List.range (form.activeFields.length + 3)).map
          (fun steps => (advance^[steps + 1] form).focus) =
        (List.range form.activeFields.length).map .field ++
          [.button cancelButton, .button submitButton, .sections]) ∧
    (FormFocus.round form.activeFields.length).Nodup ∧
    ∀ focus, focus ∈ FormFocus.round form.activeFields.length ↔
      focus.Within form.activeFields.length :=
  ⟨⟨retreat_advance h, advance_retreat h⟩, ⟨form.within_advance, within_retreat h⟩, ⟨rfl, rfl⟩,
    focuses_iterate_advance, nodup_round _, fun _ => mem_round_iff⟩

def bare : Form := .ofSections "bare" [⟨"nothing", []⟩, ⟨"name", [.ofText "name" "name:"]⟩]

def filledIn : Form :=
  { Form.ofSections "filled" [⟨"name", [.ofText "name" "name:", .ofText "tag" "tag:"]⟩] with
    focus := .field 1 }

theorem bare_and_filled_in_go_round :
    (bare.focus.Within bare.activeFields.length ∧ bare.focus = .sections ∧
      bare.retreat.advance = bare ∧
      (List.range 3).map (fun steps => (advance^[steps + 1] bare).focus) =
        [.button 0, .button 1, .sections]) ∧
    filledIn.focus.Within filledIn.activeFields.length ∧
      filledIn.advance.retreat = filledIn ∧ filledIn.retreat.advance = filledIn ∧
      filledIn.advance.focus.Within 2 ∧
      ∀ focus, focus ∈ [FormFocus.field 0, .field 1, .button 0, .button 1, .sections] ↔
        focus.Within 2 := by
  have hbare := round_visits_each_element_once bare trivial
  have hwithin : filledIn.focus.Within filledIn.activeFields.length := Nat.one_lt_two
  obtain ⟨hback, hwithins, -, -, -, hround⟩ := round_visits_each_element_once filledIn hwithin
  exact ⟨⟨trivial, rfl, hbare.1.2, hbare.2.2.2.1 rfl⟩,
    hwithin, hback.1, hback.2, hwithins.1, hround⟩

end Form

end Deckhand
