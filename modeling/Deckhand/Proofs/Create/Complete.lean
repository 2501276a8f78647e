import Deckhand.Proofs.Create.Spec
import Deckhand.Proofs.Form.Keys
import Deckhand.Proofs.Text.Blank

namespace Deckhand

/-- If reading an entry fails, then because it cannot be used. -/
def OnlyInvalid {α : Type} (x : Except Failure α) : Prop :=
  ∀ failure, x = .error failure → ∃ reason, failure = .invalid reason

namespace OnlyInvalid

variable {α β : Type} {x : Except Failure α}

theorem ok (a : α) : OnlyInvalid (.ok a) := fun _ h => by cases h

theorem invalid (reason : String) : OnlyInvalid (.error (.invalid reason) : Except Failure α) := by
  intro failure h
  cases h
  exact ⟨reason, rfl⟩

theorem bind {f : α → Except Failure β} (hx : OnlyInvalid x) (hf : ∀ a, OnlyInvalid (f a)) :
    OnlyInvalid (x >>= f) := by
  cases x with
  | error failure =>
    intro other h
    cases h
    exact hx failure rfl
  | ok a => exact hf a

theorem map (hx : OnlyInvalid x) (f : α → β) : OnlyInvalid (x.map f) :=
  hx.bind fun a => ok (f a)

end OnlyInvalid

namespace Pairs

variable {word : String}

def IsPair (word : String) : Prop :=
  ∃ pair : String × String, pair.1 ≠ "" ∧ '=' ∉ pair.1.toList ∧ word = written pair

theorem eq_written_of_splitFirst? {pair : String × String}
    (h : Text.splitFirst? '=' word = some pair) : word = written pair := by
  unfold Text.splitFirst? at h
  dsimp only at h
  split at h
  · cases h
  · rename_i c rest hrest
    cases h
    have hc : (c != '=') = false := by
      have hnot := List.head?_dropWhile_not (· != '=') word.toList
      rwa [hrest] at hnot
    have hchars := List.takeWhile_append_dropWhile (p := (· != '=')) (l := word.toList)
    rw [hrest, bne_eq_false_iff_eq.mp hc] at hchars
    exact String.toList_inj.mp (hchars.symm.trans (by simp [written]))

theorem splitFirst?_of_ofWord? {pair : String × String} (h : ofWord? word = some pair) :
    Text.splitFirst? '=' word = some pair := by
  unfold ofWord? at h
  split at h
  · rename_i key value hsplit
    split at h
    · cases h
    · cases h
      exact hsplit
  · cases h

theorem isPair_iff : IsPair word ↔ ∃ pair, ofWord? word = some pair := by
  constructor
  · rintro ⟨⟨key, value⟩, hne, hkey, rfl⟩
    refine ⟨(key, value), ?_⟩
    rw [ofWord?, Text.splitFirst?_written hkey]
    exact if_neg (String.isEmpty_iff.not.mpr hne)
  · rintro ⟨⟨key, value⟩, hword⟩
    obtain ⟨hne, hkey⟩ := key_of_ofWord? hword
    exact ⟨(key, value), hne, hkey, eq_written_of_splitFirst? (splitFirst?_of_ofWord? hword)⟩

theorem ofWords_eq_ok_iff (field : String) (pairs : Pairs) (words : List String) :
    (∃ result, ofWords field pairs words = .ok result) ↔ ∀ word ∈ words, IsPair word := by
  induction words generalizing pairs with
  | nil => simp [ofWords]
  | cons word words ih =>
    rw [ofWords, List.forall_mem_cons, isPair_iff]
    split
    · rename_i key value hword
      rw [ih]
      exact (and_iff_right ⟨_, hword⟩).symm
    · rename_i hword
      constructor
      · rintro ⟨_, h⟩
        cases h
      · rintro ⟨⟨_, h⟩, -⟩
        cases hword.symm.trans h

theorem parse_eq_ok_iff (field text : String) :
    (∃ result, parse field text = .ok result) ↔ ∀ word ∈ Text.words text, IsPair word :=
  ofWords_eq_ok_iff field [] (Text.words text)

theorem onlyInvalid_ofWords (field : String) (pairs : Pairs) (words : List String) :
    OnlyInvalid (ofWords field pairs words) := by
  induction words generalizing pairs with
  | nil => exact .ok pairs
  | cons word words ih =>
    rw [ofWords]
    split
    · exact ih _
    · exact .invalid _

theorem onlyInvalid_parse (field text : String) : OnlyInvalid (parse field text) :=
  onlyInvalid_ofWords field [] (Text.words text)

end Pairs

namespace Form

variable {form : Form}

def HasPairs (form : Form) (key : String) : Prop :=
  ∃ text, form.value? key = some (.text text) ∧ ∀ word ∈ Text.words text, Pairs.IsPair word

theorem hasPairs_iff {key text : String} (h : form.value? key = some (.text text)) :
    form.HasPairs key ↔ ∀ word ∈ Text.words (form.text key), Pairs.IsPair word := by
  rw [text_of_value? h, Text.words_trim]
  constructor
  · rintro ⟨other, hother, hwords⟩
    cases h.symm.trans hother
    exact hwords
  · intro hwords
    exact ⟨text, h, hwords⟩

end Form

namespace CreateForm

variable {form : Form} {kind : Kind} {create : CreateForm}

section

variable {α β : Type}

theorem exists_bind_pure (x : Except Failure α) (f : α → β) :
    (∃ b, (x >>= fun a => pure (f a)) = .ok b) ↔ ∃ a, x = .ok a := by
  cases x with
  | error failure =>
    constructor <;> rintro ⟨_, h⟩ <;> cases h
  | ok a => exact ⟨fun _ => ⟨a, rfl⟩, fun _ => ⟨f a, rfl⟩⟩

theorem exists_map (x : Except Failure α) (f : α → β) :
    (∃ b, x.map f = .ok b) ↔ ∃ a, x = .ok a :=
  exists_bind_pure x f

end

theorem mount_eq_ok_iff (volume point : String) :
    (∃ text, mount volume point = .ok text) ↔ (volume = "" ↔ point = "") := by
  rw [← String.isEmpty_iff, ← String.isEmpty_iff, mount]
  cases volume.isEmpty <;> cases point.isEmpty <;> simp

theorem containerSpec_eq_ok_iff (form : Form) :
    (∃ spec, containerSpec form = .ok spec) ↔
      form.choice "image" ≠ "" ∧
      (form.choice "volume" = "" ↔ form.text "volume_dest" = "") ∧
      ∀ word ∈ Text.words (form.text "labels"), Pairs.IsPair word := by
  rw [← mount_eq_ok_iff, ← Pairs.parse_eq_ok_iff "label"]
  constructor
  · rintro ⟨spec, h⟩
    have himage := (containerSpec_eq_ok h).1
    unfold containerSpec at h
    dsimp only at h
    split at h
    · cases h
    · obtain ⟨volume, hv, h⟩ := exists_of_bind h
      obtain ⟨labels, hl, h⟩ := exists_of_bind h
      cases h
      exact ⟨himage, ⟨volume, hv⟩, labels, hl⟩
  · rintro ⟨himage, ⟨volume, hv⟩, labels, hl⟩
    have hempty : ¬ (form.choice "image").isEmpty = true := String.isEmpty_iff.not.mpr himage
    simp only [containerSpec, hempty, hv, hl]
    exact ⟨_, rfl⟩

theorem podSpec_eq_ok_iff (form : Form) : (∃ spec, podSpec form = .ok spec) ↔
    ∀ word ∈ Text.words (form.text "labels"), Pairs.IsPair word :=
  (exists_bind_pure _ _).trans (Pairs.parse_eq_ok_iff "label" _)

theorem networkSpec_eq_ok_iff (form : Form) : (∃ spec, networkSpec form = .ok spec) ↔
    ∀ word ∈ Text.words (form.text "labels"), Pairs.IsPair word :=
  (exists_bind_pure _ _).trans (Pairs.parse_eq_ok_iff "label" _)

theorem volumeSpec_eq_ok_iff (form : Form) : (∃ spec, volumeSpec form = .ok spec) ↔
    (∀ word ∈ Text.words (form.text "labels"), Pairs.IsPair word) ∧
      ∀ word ∈ Text.words (form.text "options"), Pairs.IsPair word := by
  rw [← Pairs.parse_eq_ok_iff "label", ← Pairs.parse_eq_ok_iff "option"]
  constructor
  · rintro ⟨spec, h⟩
    obtain ⟨labels, hl, h⟩ := exists_of_bind h
    obtain ⟨options, ho, -⟩ := exists_of_bind h
    exact ⟨⟨labels, hl⟩, options, ho⟩
  · rintro ⟨⟨labels, hl⟩, options, ho⟩
    simp only [volumeSpec, hl, ho]
    exact ⟨_, rfl⟩

theorem onlyInvalid_mount (volume point : String) : OnlyInvalid (mount volume point) := by
  unfold mount
  split
  · exact .ok _
  · exact .ok _
  · exact .invalid _
  · exact .invalid _

theorem onlyInvalid_containerSpec (form : Form) : OnlyInvalid (containerSpec form) := by
  unfold containerSpec
  dsimp only
  split
  · exact .invalid _
  · refine .bind (onlyInvalid_mount _ _) fun volume => ?_
    exact .bind (Pairs.onlyInvalid_parse _ _) fun labels => .ok _

theorem onlyInvalid_podSpec (form : Form) : OnlyInvalid (podSpec form) :=
  .bind (Pairs.onlyInvalid_parse _ _) fun _ => .ok _

theorem onlyInvalid_networkSpec (form : Form) : OnlyInvalid (networkSpec form) :=
  .bind (Pairs.onlyInvalid_parse _ _) fun _ => .ok _

theorem onlyInvalid_volumeSpec (form : Form) : OnlyInvalid (volumeSpec form) := by
  refine .bind (Pairs.onlyInvalid_parse _ _) fun labels => ?_
  exact .bind (Pairs.onlyInvalid_parse _ _) fun options => .ok _

theorem onlyInvalid_specOf (kind : Kind) (form : Form) : OnlyInvalid (specOf kind form) := by
  cases kind with
  | containers => exact (onlyInvalid_containerSpec form).map _
  | pods => exact (onlyInvalid_podSpec form).map _
  | networks => exact (onlyInvalid_networkSpec form).map _
  | volumes => exact (onlyInvalid_volumeSpec form).map _
  | images => exact .invalid _

/-- A form is complete if what a new resource needs is chosen, and every word where keys with values
are expected is one. -/
def Complete (create : CreateForm) : Prop :=
  match create.kind with
  | .containers =>
    ∃ image volume point, create.form.IsChosen "image" image ∧
      create.form.IsChosen "volume" volume ∧
      create.form.value? "volume_dest" = some (.text point) ∧
      image.id ≠ "" ∧ (volume.id = "" ↔ Text.trim point = "") ∧ create.form.HasPairs "labels"
  | .pods | .networks => create.form.HasPairs "labels"
  | .volumes => create.form.HasPairs "labels" ∧ create.form.HasPairs "options"
  | .images => False

inductive Reached (kind : Kind) : CreateForm → Prop where
  | new (choices : Choices) (infraImage : String) (create : CreateForm) :
    new? kind choices infraImage = some create → Reached kind create
  | key (create : CreateForm) (key : Key) : Reached kind create →
    Reached kind { create with form := (create.form.handleKey key).1 }

theorem offered_of_new {choices : Choices} {infraImage : String}
    (h : new? kind choices infraImage = some create) :
    ∀ field ∈ create.form.fields, field.value.Offered := by
  cases kind <;> cases h <;>
    simp [Form.fields, container, pod, network, volume, Form.ofSections, dnsFields, Field.ofText,
      Field.ofCheck, Field.ofTexts, Field.ofChoices, FieldValue.Offered]

theorem Reached.exists_new (h : Reached kind create) : create.kind = kind ∧
    ∃ choices infraImage start, new? kind choices infraImage = some start ∧
      create.form.Fills start.form := by
  induction h with
  | new choices infraImage create hnew =>
    exact ⟨kind_of_new? hnew, choices, infraImage, create, hnew, rfl, offered_of_new hnew⟩
  | key create key _ ih =>
    obtain ⟨hkind, choices, infraImage, start, hnew, hfills⟩ := ih
    exact ⟨hkind, choices, infraImage, start, hnew, hfills.handleKey key⟩

theorem containers_complete_iff {choices : Choices} (h : form.Fills (container choices)) :
    (∃ spec, containerSpec form = .ok spec) ↔ Complete ⟨.containers, form⟩ := by
  obtain ⟨labels, hlabels⟩ := h.exists_text "labels" rfl
  rw [containerSpec_eq_ok_iff, ← Form.hasPairs_iff hlabels]
  constructor
  · rintro ⟨hid, hmount, hpairs⟩
    obtain ⟨image, himage⟩ := h.exists_choice "image" rfl
    obtain ⟨volume, hvolume⟩ := h.exists_choice "volume" rfl
    obtain ⟨point, hpoint⟩ := h.exists_text "volume_dest" rfl
    rw [Form.choice_of_isChosen himage] at hid
    rw [Form.choice_of_isChosen hvolume, Form.text_of_value? hpoint] at hmount
    exact ⟨image, volume, point, himage, hvolume, hpoint, hid, hmount, hpairs⟩
  · rintro ⟨image, volume, point, himage, hvolume, hpoint, hid, hmount, hpairs⟩
    rw [Form.choice_of_isChosen himage, Form.choice_of_isChosen hvolume,
      Form.text_of_value? hpoint]
    exact ⟨hid, hmount, hpairs⟩

/-- A form that keys lead to describes a new resource exactly if it is complete. -/
theorem spec_eq_ok_iff (h : Reached kind create) :
    (∃ spec, create.spec = .ok spec) ↔ create.Complete := by
  obtain ⟨rfl, choices, infraImage, start, hnew, hfills⟩ := h.exists_new
  obtain ⟨kind, form⟩ := create
  cases kind with
  | containers =>
    cases hnew
    exact (exists_map _ _).trans (containers_complete_iff hfills)
  | pods =>
    cases hnew
    obtain ⟨labels, hlabels⟩ := hfills.exists_text "labels" rfl
    exact (exists_map _ _).trans ((podSpec_eq_ok_iff form).trans (Form.hasPairs_iff hlabels).symm)
  | networks =>
    cases hnew
    obtain ⟨labels, hlabels⟩ := hfills.exists_text "labels" rfl
    exact (exists_map _ _).trans
      ((networkSpec_eq_ok_iff form).trans (Form.hasPairs_iff hlabels).symm)
  | volumes =>
    cases hnew
    obtain ⟨labels, hlabels⟩ := hfills.exists_text "labels" rfl
    obtain ⟨options, hoptions⟩ := hfills.exists_text "options" rfl
    exact (exists_map _ _).trans ((volumeSpec_eq_ok_iff form).trans
      (and_congr (Form.hasPairs_iff hlabels).symm (Form.hasPairs_iff hoptions).symm))
  | images => cases hnew

end CreateForm

end Deckhand
