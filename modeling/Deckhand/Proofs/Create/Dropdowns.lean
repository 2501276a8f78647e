import Mathlib.Data.List.Nodup
import Deckhand.Proofs.Form.Entries
import Deckhand.Session.Host

namespace Deckhand

namespace Key

def isOnward (key : Key) : Bool := key.code = .right || key.code = .char ' '

def isBackward (key : Key) : Bool := key.code = .left

/-- How far the keys turn a choice, which is backwards if the number is negative. -/
def turned (keys : List Key) : Int := keys.countP isOnward - keys.countP isBackward

theorem isBackward_of_isOnward {key : Key} (h : key.isOnward = true) : key.isBackward = false := by
  simp only [isOnward, Bool.or_eq_true, decide_eq_true_eq] at h
  obtain h | h := h
  · simp [isBackward, h]
  · simp [isBackward, h]

theorem turned_cons (key : Key) (keys : List Key) :
    turned (key :: keys) = turned [key] + turned keys := by
  simp only [turned, List.countP_cons, List.countP_nil]
  omega

end Key

open Key

namespace FieldValue

variable {options : List Choice} {selected : Nat}

theorem edited_onward (h : selected < options.length) {key : Key} (hk : key.isOnward = true) :
    edited (.choice options selected) key =
      .choice options ((selected + 1) % options.length) := by
  have hmax : max options.length 1 = options.length := by omega
  simp only [isOnward, Bool.or_eq_true, decide_eq_true_eq] at hk
  obtain hk | hk := hk
  · simp [edited, edit?, hk, hmax]
  · simp [edited, edit?, hk, hmax]

theorem edited_backward (h : selected < options.length) {key : Key} (hk : key.isBackward = true) :
    edited (.choice options selected) key =
      .choice options (if selected = 0 then options.length - 1 else selected - 1) := by
  have hmax : max options.length 1 = options.length := by omega
  simp only [isBackward, decide_eq_true_eq] at hk
  simp [edited, edit?, hk, hmax]

theorem edited_otherwise {key : Key} (ho : key.isOnward = false) (hb : key.isBackward = false) :
    edited (.choice options selected) key = .choice options selected := by
  simp only [isOnward, isBackward, Bool.or_eq_false_iff, decide_eq_false_iff_not] at ho hb
  simp [edited, edit?, ho.1, ho.2, hb]

theorem edited_choice (h : selected < options.length) (key : Key) :
    ∃ next, edited (.choice options selected) key = .choice options next ∧
      next < options.length ∧ (next : Int) = (selected + turned [key]) % options.length := by
  cases ho : key.isOnward with
  | true =>
    have hturn : turned [key] = 1 := by simp [turned, ho, isBackward_of_isOnward ho]
    refine ⟨_, edited_onward h ho, Nat.mod_lt _ (by omega), ?_⟩
    rw [hturn]
    rfl
  | false =>
    cases hb : key.isBackward with
    | true =>
      have hturn : turned [key] = -1 := by simp [turned, ho, hb]
      refine ⟨_, edited_backward h hb, by split <;> omega, ?_⟩
      rw [hturn]
      split
      · -- From the first option it goes round to the last.
        rw [← Int.add_emod_right, Int.emod_eq_of_lt (by omega) (by omega)]
        omega
      · rw [Int.emod_eq_of_lt (by omega) (by omega)]
        omega
    | false =>
      have hturn : turned [key] = 0 := by simp [turned, ho, hb]
      refine ⟨selected, edited_otherwise ho hb, h, ?_⟩
      rw [hturn, Int.emod_eq_of_lt (by omega) (by omega)]
      omega

theorem foldl_edited_choice (h : selected < options.length) (keys : List Key) :
    ∃ last, keys.foldl edited (.choice options selected) = .choice options last ∧
      last < options.length ∧ (last : Int) = (selected + turned keys) % options.length := by
  induction keys generalizing selected with
  | nil => exact ⟨selected, rfl, h, by simp [turned, Int.emod_eq_of_lt, h]⟩
  | cons key keys ih =>
    obtain ⟨next, hedited, hnext, hturn⟩ := edited_choice h key
    obtain ⟨last, hfold, hlast, hturns⟩ := ih hnext
    refine ⟨last, by rw [List.foldl_cons, hedited, hfold], hlast, ?_⟩
    rw [hturns, hturn, Int.emod_add_emod, turned_cons key keys, Int.add_assoc]

end FieldValue

namespace Form

variable {form : Form} {field : Field} {place : Nat × Nat}

theorem mem_fields_of_fieldAt? (h : form.fieldAt? place = some field) : field ∈ form.fields := by
  obtain ⟨part, hpart, hfield⟩ := Option.bind_eq_some_iff.mp h
  exact List.mem_flatMap.mpr ⟨part, List.mem_of_getElem? hpart, List.mem_of_getElem? hfield⟩

theorem find?_of_fieldAt? (hn : (form.fields.map (·.key)).Nodup)
    (h : form.fieldAt? place = some field) : form.find? field.key = some field := by
  have hfield := mem_fields_of_fieldAt? h
  obtain ⟨found, hfound⟩ : ∃ found, form.fields.find? (·.key == field.key) = some found := by
    rw [← Option.isSome_iff_exists, List.find?_isSome]
    exact ⟨field, hfield, beq_self_eq_true _⟩
  have hmem := List.mem_of_find?_eq_some hfound
  have hkey : found.key = field.key := by simpa using List.find?_some hfound
  rw [find?, hfound, List.inj_on_of_nodup_map hn hmem hfield hkey]

theorem keys_press (form : Form) (keys : List Key) :
    (form.press keys).fields.map (·.key) = form.fields.map (·.key) := by
  have hcleared : (form.press keys).fields.map Field.cleared = form.fields.map Field.cleared := by
    rw [map_cleared_fields, map_cleared_press, ← map_cleared_fields]
  simpa [Function.comp_def, Field.cleared] using congrArg (List.map (·.key)) hcleared

theorem choice_of_fieldAt? {key label : String} {options : List Choice} {selected : Nat}
    (hn : (form.fields.map (·.key)).Nodup)
    (h : form.fieldAt? place = some ⟨key, label, .choice options selected⟩) :
    form.choice key = (options[selected]?.map (·.id)).getD "" := by
  rw [choice, value?, show form.find? key = _ from find?_of_fieldAt? hn h]
  rfl

section Turning

variable {index selected : Nat} {name label : String} {options : List Choice}
  (hf : form.focus = .field index)
  (hfield : form.fieldAt? (form.active, index) = some ⟨name, label, .choice options selected⟩)

include hf hfield

theorem handleKey_turning {key : Key} (hk : key.isOnward = true ∨ key.isBackward = true) :
    form.recipient? key = some (form.active, index) ∧
      ∃ next, (form.handleKey key).1 = form.setFieldAt index (.choice options next) := by
  rw [fieldAt?_active] at hfield
  obtain ⟨next, hvalue⟩ : ∃ next,
      (FieldValue.choice options selected).edit? key = some (.choice options next) := by
    have hcode : key.code = .right ∨ key.code = .char ' ' ∨ key.code = .left := by
      simpa [isOnward, isBackward, or_assoc] using hk
    obtain hcode | hcode | hcode := hcode
    all_goals simp [FieldValue.edit?, hcode]
  obtain ⟨hcomes, hkey⟩ := handleKey_edit hf hfield hvalue
  exact ⟨hcomes, next, hkey⟩

theorem keysFor_turning {keys : List Key}
    (hk : ∀ key ∈ keys, key.isOnward = true ∨ key.isBackward = true) :
    form.keysFor (form.active, index) keys = keys := by
  induction keys generalizing form selected with
  | nil => rfl
  | cons key keys ih =>
    obtain ⟨hcomes, next, hkey⟩ := handleKey_turning hf hfield (hk key List.mem_cons_self)
    have hnext : (form.setFieldAt index (.choice options next)).fieldAt? (form.active, index) =
        some ⟨name, label, .choice options next⟩ := by
      rw [fieldAt?_setFieldAt, hfield]
      simp
    have hfocus : (form.setFieldAt index (.choice options next)).focus = .field index := hf
    have hlater := ih hfocus hnext fun key hkey => hk key (List.mem_cons_of_mem _ hkey)
    rw [keysFor, if_pos hcomes, hkey]
    exact congrArg (key :: ·) hlater

end Turning

end Form

namespace Host

variable {σ : Type} [Host σ]

def answer (host : σ) (kinds : List Kind) (source : Kind) : Except Failure (List Row) :=
  (Host.list (listEach host (kinds.takeWhile (· ≠ source))).2 source).1

theorem answerFor_listEach (host : σ) {kinds : List Kind} {source : Kind} (h : source ∈ kinds) :
    answerFor (listEach host kinds).1 source = answer host kinds source := by
  induction kinds generalizing host with
  | nil => cases h
  | cons kind kinds ih =>
    by_cases hs : kind = source
    · subst hs
      simp [answerFor, answer, listEach]
    · have hmem := (List.mem_cons.mp h).resolve_left fun he => hs he.symm
      have hlater := ih (Host.list host kind).2 hmem
      have hne : (source == kind) = false := beq_eq_false_iff_ne.mpr (Ne.symm hs)
      simpa [answerFor, answer, listEach, hs, List.lookup_cons, hne] using hlater

def rows (host : σ) (kinds : List Kind) (source : Kind) : List Row :=
  (answer host kinds source).toOption.getD []

theorem entries_answer (host : σ) (kinds : List Kind) (source : Kind) :
    Choices.entries (answer host kinds source) = (rows host kinds source).map .ofRow := by
  unfold rows
  cases answer host kinds source <;> rfl

end Host

/-- A choice among what the host lists of a kind, and where it stands in the form. -/
structure Dropdown where
  key : String
  label : String
  place : Nat × Nat
  source : Kind

namespace CreateForm

def dropdowns : Kind → List Dropdown
  | .containers => [⟨"image", "image:", (0, 1), .images⟩, ⟨"pod", "pod:", (0, 2), .pods⟩,
      ⟨"network", "network:", (1, 3), .networks⟩, ⟨"volume", "volume:", (4, 0), .volumes⟩]
  | .pods => [⟨"network", "network:", (3, 4), .networks⟩]
  | .images | .networks | .volumes => []

theorem source_dropdowns (kind : Kind) : (dropdowns kind).map (·.source) = Choices.sources kind := by
  cases kind <;> rfl

variable {kind : Kind} {choices : Choices} {infraImage : String} {create : CreateForm}

theorem nodup_keys (h : new? kind choices infraImage = some create) :
    (create.form.fields.map (·.key)).Nodup := by
  cases kind with
  | images => cases h
  | containers | pods | networks | volumes =>
    cases h
    simp [Form.fields, Form.ofSections, container, pod, network, volume, dnsFields,
      Field.ofText, Field.ofCheck, Field.ofTexts, Field.ofChoices]

theorem fieldAt?_dropdown {dropdown : Dropdown} (hd : dropdown ∈ dropdowns kind)
    (answer : Kind → Except Failure (List Row)) (infraImage : String) :
    ∃ create, new? kind (.ofLists kind answer) infraImage = some create ∧
      create.form.fieldAt? dropdown.place = some (.ofChoices dropdown.key dropdown.label
        (Choices.entries (answer dropdown.source))) := by
  cases kind with
  | containers =>
    simp only [dropdowns, List.mem_cons, List.not_mem_nil, or_false] at hd
    obtain rfl | rfl | rfl | rfl := hd
    all_goals exact ⟨_, rfl, rfl⟩
  | pods =>
    simp only [dropdowns, List.mem_cons, List.not_mem_nil, or_false] at hd
    subst hd
    exact ⟨_, rfl, rfl⟩
  | images | networks | volumes => cases hd

end CreateForm

/-- What is read back from a choice among rows after so many turns: nothing comes first and then the
rows, round and round. -/
def Row.Chosen (rows : List Row) (turns : Int) (id : String) : Prop :=
  (turns % (rows.length + 1) = 0 ∧ id = "") ∨
    ∃ (index : Nat) (row : Row), rows[index]? = some row ∧
      turns % (rows.length + 1) = index + 1 ∧ id = row.id

namespace Form

variable {form : Form} {place : Nat × Nat} {key label : String}

theorem fieldAt?_press_choices {choices : List Choice}
    (hfield : form.fieldAt? place = some (.ofChoices key label choices)) (keys : List Key) :
    ∃ last, (form.press keys).fieldAt? place =
        some ⟨key, label, .choice (.nothing :: choices) last⟩ ∧ last < choices.length + 1 ∧
      turned (form.keysFor place keys) % (choices.length + 1) = last := by
  have hfirst : 0 < (Choice.nothing :: choices).length := Nat.zero_lt_succ _
  obtain ⟨last, hfold, hlast, hturns⟩ :=
    FieldValue.foldl_edited_choice hfirst (form.keysFor place keys)
  refine ⟨last, ?_, hlast, by simpa using hturns.symm⟩
  rw [fieldAt?_press, hfield, Option.map_some, ← hfold]
  rfl

theorem chosen_press {rows : List Row} (hn : (form.fields.map (·.key)).Nodup)
    (hfield : form.fieldAt? place = some (.ofChoices key label (rows.map .ofRow)))
    (keys : List Key) :
    Row.Chosen rows (turned (form.keysFor place keys)) ((form.press keys).choice key) := by
  obtain ⟨last, hpress, hlast, hturns⟩ := fieldAt?_press_choices hfield keys
  rw [List.length_map] at hlast hturns
  have hchoice := choice_of_fieldAt? (by rw [keys_press]; exact hn) hpress
  cases last with
  | zero => exact .inl ⟨hturns, hchoice⟩
  | succ index =>
    have hrow := List.getElem?_eq_getElem (Nat.lt_of_succ_lt_succ hlast)
    refine .inr ⟨index, _, hrow, hturns, ?_⟩
    rw [hchoice, List.getElem?_cons_succ, List.getElem?_map, hrow]
    rfl

end Form

/-- A form for a new resource opens with a dropdown for each kind that it lists. Whatever the host
answers or fails to answer, a dropdown offers nothing and then the rows of its own list. The keys that
come to it turn it round through them, and the id of what it stops at is read back. -/
theorem CreateForm.dropdowns_read_back_rows {σ : Type} [Host σ] (host : σ) (kind : Kind)
    (infraImage : String) :
    (dropdowns kind).map (·.source) = Choices.sources kind ∧
    ∀ dropdown ∈ dropdowns kind,
      ∃ create, new? kind (Host.loadChoices host kind).1 infraImage = some create ∧
        create.form.fieldAt? dropdown.place = some ⟨dropdown.key, dropdown.label,
          .choice (.nothing :: (Host.rows host (Choices.sources kind) dropdown.source).map fun row =>
            ⟨row.id, if row.name.isEmpty then row.id else row.name⟩) 0⟩ ∧
        (∀ keys, Row.Chosen (Host.rows host (Choices.sources kind) dropdown.source)
          (turned (create.form.keysFor dropdown.place keys))
          ((create.form.press keys).choice dropdown.key)) ∧
        ∀ way turning,
          (create.form.press way).active = dropdown.place.1 →
          (create.form.press way).focus = .field dropdown.place.2 →
          (∀ key ∈ turning, key.isOnward = true ∨ key.isBackward = true) →
          create.form.keysFor dropdown.place (way ++ turning) =
            create.form.keysFor dropdown.place way ++ turning := by
  refine ⟨source_dropdowns kind, fun dropdown hd => ?_⟩
  obtain ⟨create, hnew, hfield⟩ := fieldAt?_dropdown hd
    (Host.answerFor (Host.listEach host (Choices.sources kind)).1) infraImage
  have hsource : dropdown.source ∈ Choices.sources kind := by
    rw [← source_dropdowns]
    exact List.mem_map_of_mem hd
  rw [Host.answerFor_listEach host hsource, Host.entries_answer] at hfield
  refine ⟨create, hnew, hfield, Form.chosen_press (nodup_keys hnew) hfield, ?_⟩
  intro way turning hactive hfocus hturning
  obtain ⟨last, hpress, -, -⟩ := Form.fieldAt?_press_choices hfield way
  have hplace : dropdown.place = ((create.form.press way).active, dropdown.place.2) := by
    rw [hactive]
  rw [hplace] at hpress
  rw [Form.keysFor_append, hplace, Form.keysFor_turning hfocus hpress hturning]

def Host.partly : MemoryHost where
  rows := { Tables.empty with networks := [⟨"9a", "backbone", []⟩, ⟨"7c", "", []⟩] }
  failingLists := [.images, .pods]

def CreateForm.toNetwork : List Key :=
  [.backTab, .down, .enter, .tab, .tab, .tab].map fun code => { code }

theorem CreateForm.network_is_read_back :
    ∃ create, new? .containers (Host.loadChoices Host.partly .containers).1 "" = some create ∧
      create.form.fieldAt? (1, 3) = some ⟨"network", "network:",
        .choice [.nothing, ⟨"9a", "backbone"⟩, ⟨"7c", "7c"⟩] 0⟩ ∧
      create.form.keysFor (1, 3) (toNetwork ++ [{ code := .left }]) = [{ code := .left }] ∧
      (create.form.press (toNetwork ++ [{ code := .left }])).choice "network" = "7c" := by
  obtain ⟨create, hnew, hfield, hchosen, hturning⟩ :=
    (dropdowns_read_back_rows Host.partly .containers "").2
      ⟨"network", "network:", (1, 3), .networks⟩ (by simp [dropdowns])
  obtain rfl := Option.some.inj hnew
  have hkeys : Form.keysFor _ (1, 3) (toNetwork ++ [{ code := .left }]) = [{ code := .left }] :=
    hturning toNetwork [{ code := .left }] (by decide +kernel) (by decide +kernel) (by decide)
  refine ⟨_, rfl, hfield, hkeys, ?_⟩
  have hback := hchosen (toNetwork ++ [{ code := .left }])
  rw [hkeys] at hback
  obtain ⟨hturns, -⟩ | ⟨index, row, hrow, hturns, hid⟩ := hback
  · exact absurd hturns (by decide)
  · obtain rfl : index = 1 := by
      have hlast : (index : Int) + 1 = 2 := hturns.symm.trans (by decide)
      omega
    cases hrow
    exact hid

end Deckhand
