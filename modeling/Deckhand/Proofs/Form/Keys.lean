import Deckhand.Form.Basic

namespace Deckhand

namespace FieldValue

/-- What is left of a value without what has been entered. -/
def cleared : FieldValue → FieldValue
  | text _ => text ""
  | check _ => check false
  | choice options _ => choice options 0

def Offered : FieldValue → Prop
  | choice options selected => selected < options.length
  | text _ | check _ => True

variable {value value' : FieldValue} {key : Key}

theorem cleared_edit? (h : value.edit? key = some value') : value'.cleared = value.cleared := by
  unfold edit? at h
  split at h <;> cases h <;> rfl

theorem Offered.edit? (ho : value.Offered) (h : value.edit? key = some value') :
    value'.Offered := by
  unfold FieldValue.edit? at h
  have hmax {options : List Choice} {selected : Nat} (h : selected < options.length) :
      max options.length 1 = options.length := by omega
  split at h
  case h_4 options selected _ | h_5 options selected _ =>
    cases h
    have hlt : selected < options.length := ho
    change (selected + 1) % max options.length 1 < options.length
    rw [hmax hlt]
    exact Nat.mod_lt _ (by omega)
  case h_6 options selected _ =>
    cases h
    have hlt : selected < options.length := ho
    change (if selected = 0 then max options.length 1 - 1 else selected - 1) < options.length
    split <;> omega
  all_goals cases h <;> trivial

end FieldValue

def Field.cleared (field : Field) : Field := { field with value := field.value.cleared }

def Section.cleared (part : Section) : Section :=
  { part with fields := part.fields.map Field.cleared }

namespace Form

variable {form start : Form} {key : Key} {field : Field} {value : FieldValue} {index : Nat}

theorem sections_sectionsKey (form : Form) (key : Key) :
    (form.sectionsKey key).sections = form.sections := by
  unfold sectionsKey
  split
  · rfl
  split
  · rfl
  split <;> rfl

theorem sections_buttonKey (form : Form) (index : Nat) (key : Key) :
    (form.buttonKey index key).1.sections = form.sections := by
  unfold buttonKey
  split <;> rfl

theorem fieldKey_cases (form : Form) (index : Nat) (key : Key) :
    (form.fieldKey index key).sections = form.sections ∨
      ∃ field value, form.activeFields[index]? = some field ∧ field.value.edit? key = some value ∧
        form.fieldKey index key = form.setFieldAt index value := by
  unfold fieldKey
  split
  · exact .inl rfl
  · rename_i field hfield
    split
    · rename_i value hvalue
      exact .inr ⟨field, value, hfield, hvalue, rfl⟩
    · left
      split <;> rfl

/-- A key edits a field of the active section, or it leaves all fields as they are. -/
theorem handleKey_cases (form : Form) (key : Key) :
    (form.handleKey key).1.sections = form.sections ∨
      ∃ index field value, form.activeFields[index]? = some field ∧
        field.value.edit? key = some value ∧
          (form.handleKey key).1 = form.setFieldAt index value := by
  unfold handleKey
  split
  · exact .inl rfl
  · exact .inl rfl
  · exact .inl rfl
  · split
    · exact .inl (sections_sectionsKey form key)
    · exact .inl (sections_buttonKey form _ key)
    · exact (fieldKey_cases form _ key).imp_right fun h => ⟨_, h⟩

theorem map_modify_of_getElem? {α β : Type} {f : α → β} {g : α → α} (l : List α) (n : Nat)
    (h : ∀ a, l[n]? = some a → f (g a) = f a) : (l.modify n g).map f = l.map f := by
  induction l generalizing n with
  | nil => rw [List.modify_nil]
  | cons a l ih =>
    cases n with
    | zero => simp [h a rfl]
    | succ n => simp [ih n h]

theorem mem_modify {α : Type} {g : α → α} {a : α} (l : List α) (n : Nat) (h : a ∈ l.modify n g) :
    a ∈ l ∨ ∃ b, l[n]? = some b ∧ a = g b := by
  obtain ⟨i, hi⟩ := List.mem_iff_getElem?.mp h
  rw [List.getElem?_modify] at hi
  split at hi
  · rename_i hn
    obtain ⟨b, hb, rfl⟩ := Option.map_eq_some_iff.mp hi
    exact .inr ⟨b, hn ▸ hb, rfl⟩
  · exact .inl (List.mem_of_getElem? (by simpa using hi))

theorem map_cleared_fields (form : Form) : form.fields.map Field.cleared =
    (form.sections.map Section.cleared).flatMap (·.fields) := by
  rw [fields, List.map_flatMap, List.flatMap_map]
  rfl

theorem activeFields_eq_some {part : Section} (h : form.sections[form.active]? = some part) :
    form.activeFields = part.fields := by
  rw [activeFields, h]

theorem map_cleared_setFieldAt (hfield : form.activeFields[index]? = some field)
    (hvalue : value.cleared = field.value.cleared) :
    (form.setFieldAt index value).sections.map Section.cleared =
      form.sections.map Section.cleared := by
  refine map_modify_of_getElem? _ _ fun part hpart => ?_
  rw [activeFields_eq_some hpart] at hfield
  refine congrArg (Section.mk part.title) (map_modify_of_getElem? _ _ fun other hother => ?_)
  cases hfield.symm.trans hother
  simp only [Field.cleared, hvalue]

theorem map_cleared_handleKey (form : Form) (key : Key) :
    (form.handleKey key).1.sections.map Section.cleared = form.sections.map Section.cleared := by
  obtain hsections | ⟨index, field, value, hfield, hvalue, hform⟩ := handleKey_cases form key
  · rw [hsections]
  · rw [hform]
    exact map_cleared_setFieldAt hfield (FieldValue.cleared_edit? hvalue)

theorem mem_fields_setFieldAt {other : Field} (h : other ∈ (form.setFieldAt index value).fields) :
    other ∈ form.fields ∨ other.value = value := by
  obtain ⟨part, hpart, hother⟩ := List.mem_flatMap.mp h
  obtain hpart | ⟨part, hpart', rfl⟩ := mem_modify _ _ hpart
  · exact .inl (List.mem_flatMap.mpr ⟨part, hpart, hother⟩)
  · obtain hother | ⟨field, -, rfl⟩ := mem_modify _ _ hother
    · exact .inl (List.mem_flatMap.mpr ⟨part, List.mem_of_getElem? hpart', hother⟩)
    · exact .inr rfl

theorem mem_fields_of_activeFields (h : form.activeFields[index]? = some field) :
    field ∈ form.fields := by
  unfold activeFields at h
  split at h
  · rename_i part hpart
    exact List.mem_flatMap.mpr ⟨part, List.mem_of_getElem? hpart, List.mem_of_getElem? h⟩
  · cases h

def IsChosen (form : Form) (key : String) (choice : Choice) : Prop :=
  ∃ options selected, form.value? key = some (.choice options selected) ∧
    options[selected]? = some choice

structure Fills (form start : Form) : Prop where
  cleared : form.fields.map Field.cleared = start.fields.map Field.cleared
  offered : ∀ field ∈ form.fields, field.value.Offered

namespace Fills

variable (h : form.Fills start)

include h

theorem handleKey (key : Key) : (form.handleKey key).1.Fills start := by
  refine ⟨?_, ?_⟩
  · rw [map_cleared_fields, map_cleared_handleKey, ← map_cleared_fields, h.cleared]
  · obtain hsections | ⟨index, field, value, hfield, hvalue, hform⟩ := handleKey_cases form key
    · rw [fields, hsections]
      exact h.offered
    · rw [hform]
      intro other hother
      obtain hother | hother := mem_fields_setFieldAt hother
      · exact h.offered other hother
      · rw [hother]
        exact (h.offered field (mem_fields_of_activeFields hfield)).edit? hvalue

theorem cleared_value? (key : String) :
    (form.value? key).map FieldValue.cleared = (start.value? key).map FieldValue.cleared := by
  have hfind (form : Form) : (form.value? key).map FieldValue.cleared =
      ((form.fields.map Field.cleared).find? (·.key == key)).map (·.value) := by
    rw [List.find?_map, value?, Option.map_map, Option.map_map]
    rfl
  rw [hfind, hfind, h.cleared]

theorem offered_value? {key : String} (hv : form.value? key = some value) : value.Offered := by
  obtain ⟨field, hfield, rfl⟩ := Option.map_eq_some_iff.mp hv
  exact h.offered field (List.mem_of_find?_eq_some hfield)

theorem exists_text (key : String) {initial : String}
    (hs : start.value? key = some (.text initial)) :
    ∃ text, form.value? key = some (.text text) := by
  have hcleared := h.cleared_value? key
  rw [hs] at hcleared
  obtain ⟨value, hvalue, htext⟩ := Option.map_eq_some_iff.mp hcleared
  cases value with
  | text text => exact ⟨text, hvalue⟩
  | check _ => cases htext
  | choice _ _ => cases htext

theorem exists_choice (key : String) {options : List Choice} {initial : Nat}
    (hs : start.value? key = some (.choice options initial)) :
    ∃ choice, form.IsChosen key choice := by
  have hcleared := h.cleared_value? key
  rw [hs] at hcleared
  obtain ⟨value, hvalue, hchoice⟩ := Option.map_eq_some_iff.mp hcleared
  cases value with
  | text _ => cases hchoice
  | check _ => cases hchoice
  | choice options' selected =>
    cases hchoice
    have hlt : selected < options.length := h.offered_value? hvalue
    exact ⟨options[selected], options, selected, hvalue, List.getElem?_eq_getElem hlt⟩

end Fills

theorem text_of_value? {key text : String} (h : form.value? key = some (.text text)) :
    form.text key = Text.trim text := by
  rw [Form.text, h]

theorem choice_of_isChosen {key : String} {choice : Choice} (h : form.IsChosen key choice) :
    form.choice key = choice.id := by
  obtain ⟨options, selected, hvalue, hchoice⟩ := h
  rw [Form.choice, hvalue]
  simp only [hchoice, Option.map_some, Option.getD_some]

end Form

end Deckhand
