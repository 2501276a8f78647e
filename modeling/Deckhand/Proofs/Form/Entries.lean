import Deckhand.Proofs.Form.Focus

namespace Deckhand

def FieldValue.edited (value : FieldValue) (key : Key) : FieldValue := (value.edit? key).getD value

theorem FieldValue.code_of_edit? {value value' : FieldValue} {key : Key}
    (h : value.edit? key = some value') :
    ¬(key.code = .escape ∨ key.code = .tab ∨ key.code = .backTab) := by
  rintro (hcode | hcode | hcode)
  all_goals cases value <;> simp [edit?, hcode] at h

namespace Form

def fieldAt? (form : Form) (place : Nat × Nat) : Option Field :=
  form.sections[place.1]?.bind (·.fields[place.2]?)

/-- The place of the field that a key comes to. -/
def recipient? (form : Form) (key : Key) : Option (Nat × Nat) :=
  if key.code = .escape ∨ key.code = .tab ∨ key.code = .backTab then none
  else match form.focus with
    | .field index => some (form.active, index)
    | .sections | .button _ => none

def press (form : Form) (keys : List Key) : Form :=
  keys.foldl (fun form key => (form.handleKey key).1) form

def keysFor (form : Form) (place : Nat × Nat) : List Key → List Key
  | [] => []
  | key :: keys =>
    let later := keysFor (form.handleKey key).1 place keys
    if form.recipient? key = some place then key :: later else later

/-- What a key does, which is one thing: it edits the field that has the focus, or it moves the focus
within the section or to another one, or it asks for something. -/
inductive Does (form : Form) (key : Key) : Form → FormEvent → Prop
  | edit {index field value} : form.focus = .field index →
      form.activeFields[index]? = some field → field.value.edit? key = some value →
      Does form key (form.setFieldAt index value) .none
  | move {active focus} : Does form key { form with active, focus } .none
  | ask {event} : event ≠ .none → Does form key form event

variable {form form' : Form} {key : Key} {place : Nat × Nat} {index : Nat}

theorem buttonKey_asks (h : (form.buttonKey index key).2 ≠ .none) :
    (form.buttonKey index key).1 = form := by
  unfold buttonKey at h ⊢
  split at h
  · exact absurd rfl h
  · exact absurd rfl h
  · rfl
  · exact absurd rfl h

theorem handleKey_asks (h : (form.handleKey key).2 ≠ .none) : (form.handleKey key).1 = form := by
  unfold handleKey at h ⊢
  split at h
  · rfl
  · exact absurd rfl h
  · exact absurd rfl h
  · split at h
    · exact absurd rfl h
    · exact buttonKey_asks h
    · exact absurd rfl h

theorem handleKey_does (form : Form) (key : Key) :
    form.Does key (form.handleKey key).1 (form.handleKey key).2 := by
  by_cases hevent : (form.handleKey key).2 = .none
  · rw [hevent]
    have hturns := form.handleKey_turns key
    generalize (form.handleKey key).1 = form' at hturns ⊢
    cases hturns with
    | keep | advance | retreat | nextSection _ | previousSection _ | otherButton _ => exact .move
    | edit hf hfield hvalue => exact .edit hf hfield hvalue
  · rw [handleKey_asks hevent]
    exact .ask hevent

theorem fieldAt?_congr (h : form'.sections = form.sections) (place : Nat × Nat) :
    form'.fieldAt? place = form.fieldAt? place := by
  rw [fieldAt?, h, fieldAt?]

theorem fieldAt?_active (form : Form) (index : Nat) :
    form.fieldAt? (form.active, index) = form.activeFields[index]? := by
  unfold fieldAt? activeFields
  cases form.sections[form.active]? <;> rfl

theorem fieldAt?_setFieldAt (form : Form) (index : Nat) (value : FieldValue) (place : Nat × Nat) :
    (form.setFieldAt index value).fieldAt? place = (form.fieldAt? place).map fun field =>
      if (form.active, index) = place then { field with value } else field := by
  obtain ⟨part, other⟩ := place
  unfold fieldAt? setFieldAt
  dsimp only
  rw [List.getElem?_modify]
  cases form.sections[part]? with
  | none => rfl
  | some shown =>
    by_cases hp : form.active = part
    · simp [hp, List.getElem?_modify]
    · simp [hp]

theorem fieldAt?_fieldKey (form : Form) (index : Nat) (key : Key) (place : Nat × Nat) :
    (form.fieldKey index key).fieldAt? place = (form.fieldAt? place).map fun field =>
      if (form.active, index) = place then { field with value := field.value.edited key }
      else field := by
  by_cases hp : (form.active, index) = place
  · subst hp
    unfold fieldKey
    rw [fieldAt?_active form]
    cases hfield : form.activeFields[index]? with
    | none => exact (fieldAt?_active form index).trans hfield
    | some field =>
      dsimp only
      cases hvalue : field.value.edit? key with
      | some value =>
        simp [fieldAt?_setFieldAt, fieldAt?_active, hfield, FieldValue.edited, hvalue]
      | none =>
        dsimp only
        rw [fieldAt?_congr (show _ = form.sections by split <;> rfl), fieldAt?_active, hfield]
        simp [FieldValue.edited, hvalue]
  · -- What stands elsewhere stays, whether the field is edited or not.
    obtain hsections | ⟨field, value, -, -, hform⟩ := fieldKey_cases form index key
    · simp [fieldAt?_congr hsections, hp]
    · simp [hform, fieldAt?_setFieldAt, hp]

theorem fieldAt?_handleKey (form : Form) (key : Key) (place : Nat × Nat) :
    (form.handleKey key).1.fieldAt? place = (form.fieldAt? place).map fun field =>
      if form.recipient? key = some place then { field with value := field.value.edited key }
      else field := by
  unfold handleKey recipient?
  split
  · rename_i hk
    simp [hk]
  · rename_i hk
    simp [hk, fieldAt?_congr (show form.advance.sections = form.sections from rfl)]
  · rename_i hk
    simp [hk, fieldAt?_congr (show form.retreat.sections = form.sections from rfl)]
  · rename_i hescape htab hbackTab
    rw [if_neg fun h => h.elim hescape fun h => h.elim htab hbackTab]
    split
    · rename_i hf
      simp [hf, fieldAt?_congr (sections_sectionsKey form key)]
    · rename_i index hf
      simp [hf, fieldAt?_congr (sections_buttonKey form index key)]
    · rename_i index hf
      simp [hf, fieldAt?_fieldKey]

theorem handleKey_edit {field : Field} {value : FieldValue} (hf : form.focus = .field index)
    (hfield : form.activeFields[index]? = some field) (hvalue : field.value.edit? key = some value) :
    form.recipient? key = some (form.active, index) ∧
      (form.handleKey key).1 = form.setFieldAt index value := by
  have hcode := FieldValue.code_of_edit? hvalue
  refine ⟨by rw [recipient?, if_neg hcode, hf], ?_⟩
  simp only [not_or] at hcode
  unfold handleKey
  split
  · exact absurd ‹_› hcode.1
  · exact absurd ‹_› hcode.2.1
  · exact absurd ‹_› hcode.2.2
  · simp only [hf, fieldKey, hfield, hvalue]

theorem press_cons (form : Form) (key : Key) (keys : List Key) :
    form.press (key :: keys) = (form.handleKey key).1.press keys := rfl

theorem fieldAt?_press (form : Form) (keys : List Key) (place : Nat × Nat) :
    (form.press keys).fieldAt? place = (form.fieldAt? place).map fun field =>
      { field with value := (form.keysFor place keys).foldl FieldValue.edited field.value } := by
  induction keys generalizing form with
  | nil => exact (Option.map_id' ..).symm
  | cons key keys ih =>
    rw [press_cons, ih, fieldAt?_handleKey, Option.map_map, keysFor]
    congr 1
    funext field
    by_cases hr : form.recipient? key = some place
    · simp [hr]
    · simp [hr]

theorem keysFor_append (form : Form) (place : Nat × Nat) (keys later : List Key) :
    form.keysFor place (keys ++ later) =
      form.keysFor place keys ++ (form.press keys).keysFor place later := by
  induction keys generalizing form with
  | nil => rfl
  | cons key keys ih =>
    rw [List.cons_append, keysFor, keysFor, ih, press_cons]
    split
    · rfl
    · rfl

theorem title_handleKey (form : Form) (key : Key) :
    (form.handleKey key).1.title = form.title := by
  have hturns := form.handleKey_turns key
  generalize (form.handleKey key).1 = form' at hturns ⊢
  cases hturns <;> rfl

theorem title_press (form : Form) (keys : List Key) : (form.press keys).title = form.title := by
  induction keys generalizing form with
  | nil => rfl
  | cons key keys ih => exact (ih _).trans (form.title_handleKey key)

theorem map_cleared_press (form : Form) (keys : List Key) :
    (form.press keys).sections.map Section.cleared = form.sections.map Section.cleared := by
  induction keys generalizing form with
  | nil => rfl
  | cons key keys ih => exact (ih _).trans (form.map_cleared_handleKey key)

theorem handleKey_switch (hf : form.focus = .sections) (hk : key.isDown = true ∨ key.isUp = true) :
    ∃ active, (form.handleKey key).1 = { form with active } := by
  unfold handleKey
  split
  case h_4 =>
    simp only [hf]
    unfold sectionsKey
    split
    · exact ⟨_, rfl⟩
    · rw [if_pos (hk.resolve_left ‹_›)]
      exact ⟨_, rfl⟩
  all_goals
    rename_i hcode
    simp [Key.isDown, Key.isUp, hcode] at hk

theorem press_switches (hf : form.focus = .sections) {keys : List Key}
    (hk : ∀ key ∈ keys, key.isDown = true ∨ key.isUp = true) :
    ∃ active, form.press keys = { form with active } := by
  induction keys generalizing form with
  | nil => exact ⟨form.active, rfl⟩
  | cons key keys ih =>
    obtain ⟨active, hkey⟩ := handleKey_switch hf (hk key List.mem_cons_self)
    have hfocus : (form.handleKey key).1.focus = .sections := by
      rw [hkey]
      exact hf
    obtain ⟨last, hkeys⟩ := ih hfocus fun key hkey => hk key (List.mem_cons_of_mem _ hkey)
    refine ⟨last, hkeys.trans ?_⟩
    rw [hkey]

/-- After any keys a field holds what those of them that came while it had the focus have made of it.
Whatever is not entered into a field stays as it is, a key does one thing at a time, and switching
sections changes nothing but the section that is shown. -/
theorem entries_are_kept (form : Form) (keys : List Key) :
    (∀ place, (form.press keys).fieldAt? place = (form.fieldAt? place).map fun field =>
      { field with value := (form.keysFor place keys).foldl FieldValue.edited field.value }) ∧
    ((form.press keys).title = form.title ∧
      (form.press keys).sections.map Section.cleared = form.sections.map Section.cleared) ∧
    (∀ key, form.Does key (form.handleKey key).1 (form.handleKey key).2) ∧
    (form.focus = .sections → (∀ key ∈ keys, key.isDown = true ∨ key.isUp = true) →
      ∃ active, form.press keys = { form with active }) :=
  ⟨form.fieldAt?_press keys, ⟨form.title_press keys, form.map_cleared_press keys⟩,
    form.handleKey_does, fun hf hk => press_switches hf hk⟩

def draft : Form where
  title := "draft"
  sections := [⟨"general", [.ofText "name" "name:"]⟩, ⟨"options", [.ofCheck "rm" "remove:"]⟩]
  active := 0
  focus := .sections

def spelling : List Key :=
  [.char 'x', .enter, .char 'a', .tab, .char 'y', .backTab, .char 'b'].map fun code => { code }

theorem draft_keeps_its_entries :
    (draft.press spelling).fieldAt? (0, 0) = some (.ofText "name" "name:" "ab") ∧
      ∃ active, draft.press [{ code := .down }, { code := .char 'k' }] = { draft with active } :=
  ⟨(entries_are_kept draft spelling).1 (0, 0), (entries_are_kept draft _).2.2.2 rfl (by decide)⟩

end Form

end Deckhand
