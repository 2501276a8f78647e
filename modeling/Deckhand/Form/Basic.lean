import Deckhand.Key
import Deckhand.Operation
import Deckhand.Text.Blank

namespace Deckhand

/-- What a field holds. The options of a choice start with the one that stands for no choice. -/
inductive FieldValue where
  | text (text : String)
  | check (checked : Bool)
  | choice (options : List Choice) (selected : Nat)
deriving DecidableEq, Inhabited

structure Field where
  key : String
  label : String
  value : FieldValue
deriving DecidableEq, Inhabited

namespace Field

def ofText (key label : String) (initial : String := "") : Field := ⟨key, label, .text initial⟩

def ofCheck (key label : String) (initial : Bool := false) : Field := ⟨key, label, .check initial⟩

def ofChoices (key label : String) (choices : List Choice) : Field :=
  ⟨key, label, .choice (.nothing :: choices) 0⟩

def ofTexts (key label : String) (texts : List String) : Field :=
  ofChoices key label ((texts.filter (!·.isEmpty)).map fun text => ⟨text, text⟩)

end Field

namespace FieldValue

/-- What an editing key makes of a value; `none` if the key does not edit it. -/
def edit? (value : FieldValue) (key : Key) : Option FieldValue :=
  match value, key.code with
  | text t, .char c => some (text (t.push c))
  | text t, .backspace => some (text (String.ofList t.toList.dropLast))
  | check b, .char ' ' => some (check (!b))
  | choice options selected, .right | choice options selected, .char ' ' =>
    some (choice options ((selected + 1) % max options.length 1))
  | choice options selected, .left =>
    some (choice options (if selected = 0 then max options.length 1 - 1 else selected - 1))
  | _, _ => none

end FieldValue

structure Section where
  title : String
  fields : List Field
deriving DecidableEq, Inhabited

inductive FormFocus where
  | sections
  | field (index : Nat)
  /-- The buttons: first the one that cancels, then the one that submits. -/
  | button (index : Nat)
deriving DecidableEq, Inhabited

inductive FormEvent where
  | none
  | cancel
  | submit
deriving DecidableEq, Inhabited

structure Form where
  title : String
  sections : List Section
  active : Nat
  focus : FormFocus
deriving DecidableEq, Inhabited

namespace Form

def cancelButton : Nat := 0

def submitButton : Nat := 1

def buttons : List String := ["Cancel", "Create"]

/-- A form at its first section, with the focus on the first field if there is one. -/
def ofSections (title : String) (sections : List Section) : Form where
  title
  sections
  active := 0
  focus :=
    match sections with
    | ⟨_, _ :: _⟩ :: _ => .field 0
    | _ => .sections

def activeFields (form : Form) : List Field :=
  match form.sections[form.active]? with
  | some part => part.fields
  | none => []

def advance (form : Form) : Form :=
  let count := form.activeFields.length
  let focus : FormFocus :=
    match form.focus with
    | .sections => if count > 0 then .field 0 else .button cancelButton
    | .field i => if i + 1 < count then .field (i + 1) else .button cancelButton
    | .button i => if i = cancelButton then .button submitButton else .sections
  { form with focus }

def retreat (form : Form) : Form :=
  let count := form.activeFields.length
  let focus : FormFocus :=
    match form.focus with
    | .sections => .button submitButton
    | .field i => if i = 0 then .sections else .field (i - 1)
    | .button i =>
      if i = submitButton then .button cancelButton
      else if count > 0 then .field (count - 1)
      else .sections
  { form with focus }

def nextSection (form : Form) : Form :=
  { form with
    active := if form.sections.isEmpty then form.active
      else (form.active + 1) % form.sections.length
    focus := .sections }

def previousSection (form : Form) : Form :=
  { form with
    active := if form.sections.isEmpty then form.active
      else if form.active = 0 then form.sections.length - 1
      else form.active - 1
    focus := .sections }

def focusedField? (form : Form) : Option Field :=
  match form.focus with
  | .field i => form.activeFields[i]?
  | _ => none

def setFieldAt (form : Form) (index : Nat) (value : FieldValue) : Form :=
  { form with
    sections := form.sections.modify form.active fun part =>
      { part with fields := part.fields.modify index ({ · with value }) } }

def sectionsKey (form : Form) (key : Key) : Form :=
  if key.isDown then form.nextSection
  else if key.isUp then form.previousSection
  else match key.code with
    | .enter | .right => form.advance
    | _ => form

def buttonKey (form : Form) (index : Nat) (key : Key) : Form × FormEvent :=
  match key.code with
  | .left | .right => ({ form with focus := .button (1 - min index 1) }, .none)
  | .enter => (form, if index = submitButton then .submit else .cancel)
  | _ => (form, .none)

def fieldKey (form : Form) (index : Nat) (key : Key) : Form :=
  match form.activeFields[index]? with
  | none => form
  | some field =>
    match field.value.edit? key with
    | some value => form.setFieldAt index value
    | none =>
      match key.code with
      | .enter | .down => form.advance
      | .up => form.retreat
      | _ => form

def handleKey (form : Form) (key : Key) : Form × FormEvent :=
  match key.code with
  | .escape => (form, .cancel)
  | .tab => (form.advance, .none)
  | .backTab => (form.retreat, .none)
  | _ =>
    match form.focus with
    | .sections => (form.sectionsKey key, .none)
    | .button index => form.buttonKey index key
    | .field index => (form.fieldKey index key, .none)

def fields (form : Form) : List Field := form.sections.flatMap (·.fields)

def find? (form : Form) (key : String) : Option Field := form.fields.find? (·.key == key)

def value? (form : Form) (key : String) : Option FieldValue := (form.find? key).map (·.value)

def text (form : Form) (key : String) : String :=
  match form.value? key with
  | some (.text t) => Text.trim t
  | _ => ""

def checked (form : Form) (key : String) : Bool := form.value? key = some (.check true)

def choice (form : Form) (key : String) : String :=
  match form.value? key with
  | some (.choice options selected) => (options[selected]?.map (·.id)).getD ""
  | _ => ""

end Form

end Deckhand
