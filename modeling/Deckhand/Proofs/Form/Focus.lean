import Deckhand.Proofs.Create.Spec
import Deckhand.Proofs.Form.Keys

namespace Deckhand

def FormFocus.Within (count : Nat) : FormFocus → Prop
  | .sections => True
  | .field index => index < count
  | .button index => index < Form.buttons.length

/-- The entry that stands for no choice comes first, and what has been chosen is one of the options. -/
def FieldValue.Intact : FieldValue → Prop
  | choice options selected => options.head? = some .nothing ∧ selected < options.length
  | text _ | check _ => True

theorem FieldValue.Intact.edit? {value value' : FieldValue} {key : Key} (hi : value.Intact)
    (h : value.edit? key = some value') : value'.Intact := by
  have hcleared := FieldValue.cleared_edit? h
  cases value with
  | choice options selected =>
    obtain ⟨hfirst, hlt⟩ := hi
    have hoffered : (choice options selected).Offered := hlt
    cases value' with
    | choice options' selected' =>
      cases hcleared
      exact ⟨hfirst, hoffered.edit? h⟩
    | text _ | check _ => cases hcleared
  | text _ | check _ =>
    cases value' with
    | choice _ _ => cases hcleared
    | text _ | check _ => trivial

namespace Form

variable {form form' : Form} {key : Key}

inductive Turns (form : Form) (key : Key) : Form → Prop
  | keep : Turns form key form
  | advance : Turns form key form.advance
  | retreat : Turns form key form.retreat
  | nextSection : form.focus = .sections → Turns form key form.nextSection
  | previousSection : form.focus = .sections → Turns form key form.previousSection
  | otherButton {index} : form.focus = .button index →
      Turns form key { form with focus := .button (1 - min index 1) }
  | edit {index field value} : form.focus = .field index →
      form.activeFields[index]? = some field → field.value.edit? key = some value →
      Turns form key (form.setFieldAt index value)

theorem sectionsKey_turns (hf : form.focus = .sections) (key : Key) :
    form.Turns key (form.sectionsKey key) := by
  unfold sectionsKey
  split
  · exact .nextSection hf
  split
  · exact .previousSection hf
  split
  · exact .advance
  · exact .advance
  · exact .keep

theorem buttonKey_turns {index : Nat} (hf : form.focus = .button index) (key : Key) :
    form.Turns key (form.buttonKey index key).1 := by
  unfold buttonKey
  split
  · exact .otherButton hf
  · exact .otherButton hf
  · exact .keep
  · exact .keep

theorem fieldKey_turns {index : Nat} (hf : form.focus = .field index) (key : Key) :
    form.Turns key (form.fieldKey index key) := by
  unfold fieldKey
  split
  · exact .keep
  · rename_i field hfield
    split
    · rename_i value hvalue
      exact .edit hf hfield hvalue
    · split
      · exact .advance
      · exact .advance
      · exact .retreat
      · exact .keep

theorem handleKey_turns (form : Form) (key : Key) : form.Turns key (form.handleKey key).1 := by
  unfold handleKey
  split
  · exact .keep
  · exact .advance
  · exact .retreat
  · split
    · rename_i hf
      exact sectionsKey_turns hf key
    · rename_i index hf
      exact buttonKey_turns hf key
    · rename_i index hf
      exact fieldKey_turns hf key

theorem length_activeFields_setFieldAt (form : Form) (index : Nat) (value : FieldValue) :
    (form.setFieldAt index value).activeFields.length = form.activeFields.length := by
  unfold activeFields setFieldAt
  dsimp only
  rw [List.getElem?_modify_eq]
  cases form.sections[form.active]? with
  | none => rfl
  | some part => exact List.length_modify ..

theorem within_advance (form : Form) : form.advance.focus.Within form.activeFields.length := by
  unfold advance
  dsimp only
  split
  · split
    · assumption
    · exact Nat.zero_lt_two
  · split
    · assumption
    · exact Nat.zero_lt_two
  · split
    · exact Nat.one_lt_two
    · trivial

theorem within_retreat (h : form.focus.Within form.activeFields.length) :
    form.retreat.focus.Within form.activeFields.length := by
  unfold retreat
  dsimp only
  split
  · exact Nat.one_lt_two
  · rename_i index hf
    rw [hf] at h
    split
    · trivial
    · exact Nat.lt_of_le_of_lt (Nat.sub_le index 1) h
  · split
    · exact Nat.zero_lt_two
    · split
      · exact Nat.sub_one_lt_of_lt ‹_›
      · trivial

/-- A form shows one of its sections, something in it has the focus, and each choice is made. -/
structure Intact (form : Form) : Prop where
  active : form.active < form.sections.length
  focus : form.focus.Within form.activeFields.length
  choices : ∀ field ∈ form.fields, field.value.Intact

namespace Intact

variable (h : form.Intact)

include h

theorem advance : form.advance.Intact := ⟨h.active, form.within_advance, h.choices⟩

theorem retreat : form.retreat.Intact := ⟨h.active, within_retreat h.focus, h.choices⟩

theorem nextSection : form.nextSection.Intact := by
  have hactive := h.active
  refine ⟨?_, trivial, h.choices⟩
  have hne : form.sections.isEmpty = false := by
    cases hs : form.sections with
    | nil => rw [hs] at hactive; cases hactive
    | cons part rest => rfl
  simp only [Form.nextSection, hne, Bool.false_eq_true, if_false]
  exact Nat.mod_lt _ (by omega)

theorem previousSection : form.previousSection.Intact := by
  have hactive := h.active
  refine ⟨?_, trivial, h.choices⟩
  simp only [Form.previousSection]
  split
  · exact hactive
  split <;> omega

theorem setFieldAt {index : Nat} {field : Field} {value : FieldValue}
    (hfield : form.activeFields[index]? = some field)
    (hvalue : field.value.edit? key = some value) : (form.setFieldAt index value).Intact := by
  refine ⟨?_, ?_, fun other hother => ?_⟩
  · exact Nat.lt_of_lt_of_eq h.active (List.length_modify ..).symm
  · rw [length_activeFields_setFieldAt]
    exact h.focus
  · obtain hother | hother := mem_fields_setFieldAt hother
    · exact h.choices other hother
    · rw [hother]
      exact (h.choices field (mem_fields_of_activeFields hfield)).edit? hvalue

theorem turns (ht : form.Turns key form') : form'.Intact := by
  cases ht with
  | keep => exact h
  | advance => exact h.advance
  | retreat => exact h.retreat
  | nextSection _ => exact h.nextSection
  | previousSection _ => exact h.previousSection
  | @otherButton index _ =>
    refine ⟨h.active, ?_, h.choices⟩
    have hlt : 1 - min index 1 < 2 := by omega
    exact hlt
  | edit _ hfield hvalue => exact h.setFieldAt hfield hvalue

theorem handleKey (key : Key) : (form.handleKey key).1.Intact := h.turns (form.handleKey_turns key)

theorem exists_active : ∃ part, form.sections[form.active]? = some part :=
  ⟨_, List.getElem?_eq_getElem h.active⟩

end Intact

theorem intact_ofSections (title : String) {first : Section} {rest : List Section}
    (hc : ∀ part ∈ first :: rest, ∀ field ∈ part.fields, field.value.Intact) :
    (ofSections title (first :: rest)).Intact := by
  refine ⟨Nat.zero_lt_succ _, ?_, fun field hfield => ?_⟩
  · obtain ⟨name, fields⟩ := first
    cases fields with
    | nil => trivial
    | cons field fields => exact Nat.zero_lt_succ _
  · obtain ⟨part, hpart, hfield⟩ := List.mem_flatMap.mp hfield
    exact hc part hpart field hfield

end Form

theorem CreateForm.intact_of_new? {kind : Kind} {choices : Choices} {infraImage : String}
    {create : CreateForm} (h : new? kind choices infraImage = some create) :
    create.form.Intact := by
  cases kind with
  | images => cases h
  | containers | pods | networks | volumes =>
    cases h
    refine Form.intact_ofSections _ ?_
    simp [dnsFields, Field.ofText, Field.ofCheck, Field.ofTexts, Field.ofChoices,
      FieldValue.Intact]

end Deckhand
