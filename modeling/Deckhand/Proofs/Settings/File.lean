import Deckhand.Proofs.Text.Utf8
import Deckhand.Proofs.Toml.Document
import Deckhand.Settings.File

namespace Deckhand.Settings

open Toml (Field document)

variable {settings : Settings} {entries : Toml.Entries} {key : String}

def numberField (key : String) : Option Nat → List Field
  | none => []
  | some n => [⟨key, Nat.toDigits 10 n, .integer n⟩]

def textField (key : String) : Option String → List Field
  | none => []
  | some text => [⟨key, Toml.stringChars text.toList, .string text⟩]

def fields (settings : Settings) : List Field :=
  numberField "refresh_interval_ms" settings.refreshInterval ++
    numberField "stats_interval_ms" settings.statsInterval ++
    numberField "list_timeout_ms" settings.listTimeout ++
    textField "podman_command" settings.podmanCommand ++
    textField "connection" settings.connection ++
    textField "pod_infra_image" settings.podInfraImage

def InRange (number : Option Nat) : Prop := ∀ n ∈ number, n < Nat.pow 2 63

instance (number : Option Nat) : Decidable (InRange number) :=
  inferInstanceAs (Decidable (∀ n ∈ number, n < Nat.pow 2 63))

structure Storable (settings : Settings) : Prop where
  refreshInterval : InRange settings.refreshInterval
  statsInterval : InRange settings.statsInterval
  listTimeout : InRange settings.listTimeout

theorem assignmentText_eq (key : String) (text : List Char) (scalar : Toml.Scalar) :
    Toml.assignmentText key (String.ofList text) = String.ofList (Field.line ⟨key, text, scalar⟩) := by
  apply String.toList_inj.mp
  simp [Toml.assignmentText, Field.line]

theorem naturalLine_eq {number : Option Nat} (h : InRange number) (key : String) :
    naturalLine key number = .ok (String.ofList (document (numberField key number))) := by
  cases number with
  | none => rfl
  | some n =>
    rw [naturalLine, if_pos (h n rfl), Nat.toString_eq_ofList_toDigits,
      assignmentText_eq _ _ (.integer n)]
    simp [document, numberField]

theorem naturalLine_error {number : Option Nat} (h : ¬ InRange number) (key : String) :
    naturalLine key number = .error (.settingsRange (key ++ " is out of range")) := by
  cases number with
  | none => exact absurd nofun h
  | some n =>
    rw [naturalLine, if_neg]
    intro hn
    apply h
    intro m hm
    cases hm
    exact hn

theorem textLine_eq (key : String) (text : Option String) :
    textLine key text = String.ofList (document (textField key text)) := by
  cases text with
  | none => rfl
  | some text =>
    rw [textLine, Toml.stringText, assignmentText_eq _ _ (.string text)]
    simp [document, textField]

theorem written_eq (h : settings.Storable) :
    settings.written = .ok (String.ofList (document settings.fields)) := by
  rw [written, naturalLine_eq h.refreshInterval, naturalLine_eq h.statsInterval,
    naturalLine_eq h.listTimeout]
  simp only [textLine_eq, fields, document, List.flatMap_append, String.ofList_append]
  rfl

theorem written_error (h : ¬ settings.Storable) :
    ∃ message, settings.written = .error (.settingsRange message) := by
  by_cases hr : InRange settings.refreshInterval
  · by_cases hs : InRange settings.statsInterval
    · have ht : ¬ InRange settings.listTimeout := fun ht => h ⟨hr, hs, ht⟩
      rw [written, naturalLine_eq hr, naturalLine_eq hs, naturalLine_error ht]
      exact ⟨_, rfl⟩
    · rw [written, naturalLine_eq hr, naturalLine_error hs]
      exact ⟨_, rfl⟩
  · rw [written, naturalLine_error hr]
    exact ⟨_, rfl⟩

theorem readable_numberField {number : Option Nat} (h : InRange number) (hk : Toml.IsBare key) :
    ∀ field ∈ numberField key number, field.Readable := by
  intro field hf
  cases number with
  | none => cases hf
  | some n =>
    rw [List.mem_singleton.mp hf]
    exact ⟨hk, Toml.reads_toDigits (h n rfl)⟩

theorem readable_textField (text : Option String) (hk : Toml.IsBare key) :
    ∀ field ∈ textField key text, field.Readable := by
  intro field hf
  cases text with
  | none => cases hf
  | some text =>
    rw [List.mem_singleton.mp hf]
    have hread := Toml.reads_stringChars text.toList
    rw [String.ofList_toList] at hread
    exact ⟨hk, hread⟩

theorem readable_fields (h : settings.Storable) : ∀ field ∈ settings.fields, field.Readable := by
  simp only [fields, List.forall_mem_append]
  refine ⟨⟨⟨⟨⟨?_, ?_⟩, ?_⟩, ?_⟩, ?_⟩, ?_⟩
  · exact readable_numberField h.refreshInterval (by decide)
  · exact readable_numberField h.statsInterval (by decide)
  · exact readable_numberField h.listTimeout (by decide)
  · exact readable_textField _ (by decide)
  · exact readable_textField _ (by decide)
  · exact readable_textField _ (by decide)

theorem nodup_fields (settings : Settings) : (settings.fields.map Field.key).Nodup := by
  have hnumber (key) (number : Option Nat) :
      ((numberField key number).map Field.key).Sublist [key] := by
    cases number with
    | none => exact List.nil_sublist _
    | some n => exact List.Sublist.refl _
  have htext (key) (text : Option String) : ((textField key text).map Field.key).Sublist [key] := by
    cases text with
    | none => exact List.nil_sublist _
    | some text => exact List.Sublist.refl _
  have hkeys : ["refresh_interval_ms", "stats_interval_ms", "list_timeout_ms", "podman_command",
      "connection", "pod_infra_image"].Nodup := by
    decide
  refine List.Nodup.sublist ?_ hkeys
  simp only [fields, List.map_append]
  exact (((((hnumber _ _).append (hnumber _ _)).append (hnumber _ _)).append (htext _ _)).append
    (htext _ _)).append (htext _ _)

theorem lookup_single (key other : String) (scalar : Toml.Scalar) :
    [(key, Toml.Node.value scalar)].lookup other =
      if other = key then some (.value scalar) else none := by
  rw [List.lookup_cons, List.lookup_nil]
  by_cases h : other = key
  · rw [if_pos h, beq_iff_eq.mpr h]
  · rw [if_neg h, beq_false_of_ne h]

theorem lookup_numberField (key other : String) (number : Option Nat) :
    ((numberField key number).map Field.entry).lookup other =
      if other = key then number.map fun n => .value (.integer n) else none := by
  cases number with
  | none => exact (ite_self none).symm
  | some n => exact lookup_single key other _

theorem lookup_textField (key other : String) (text : Option String) :
    ((textField key text).map Field.entry).lookup other =
      if other = key then text.map fun text => .value (.string text) else none := by
  cases text with
  | none => exact (ite_self none).symm
  | some text => exact lookup_single key other _

theorem natural?_of_lookup (number : Option Nat)
    (h : entries.lookup key = number.map fun n => .value (.integer n)) :
    natural? entries key = .ok number := by
  rw [natural?, h]
  cases number with
  | none => rfl
  | some n => rfl

theorem text?_of_lookup (text : Option String)
    (h : entries.lookup key = text.map fun text => .value (.string text)) :
    text? entries key = .ok text := by
  rw [text?, h]
  cases text with
  | none => rfl
  | some text => rfl

theorem ofEntries_fields (settings : Settings) :
    ofEntries (settings.fields.map Field.entry) = .ok settings := by
  rw [ofEntries, natural?_of_lookup settings.refreshInterval,
    natural?_of_lookup settings.statsInterval,
    natural?_of_lookup settings.listTimeout,
    text?_of_lookup settings.podmanCommand,
    text?_of_lookup settings.connection,
    text?_of_lookup settings.podInfraImage]
  · rfl
  all_goals simp [fields, List.lookup_append, lookup_numberField, lookup_textField]

theorem save_of_written {text : String} {stored : Stored} (h : settings.written = .ok text)
    (hd : stored ≠ .directory) : settings.save false stored = (.ok (), .file text.toUTF8) := by
  unfold save
  rw [if_neg Bool.false_ne_true, h]
  cases stored with
  | directory => exact absurd rfl hd
  | absent => rfl
  | file bytes => rfl

theorem save_of_error {failure : Failure} (h : settings.written = .error failure)
    (stored : Stored) : settings.save false stored = (.error failure, stored) := by
  unfold save
  rw [if_neg Bool.false_ne_true, h]

theorem load_document (hs : settings.Storable) :
    load (.file (String.ofList (document settings.fields)).toUTF8) = .ok settings := by
  have hparse : parse (String.ofList (document settings.fields)) = .ok settings := by
    rw [parse, Toml.parse?_document (readable_fields hs) (nodup_fields settings)]
    exact ofEntries_fields settings
  rw [load, Text.decode?_toUTF8]
  exact hparse

/-- Settings are saved where a file can be written, and then loaded as they were, whatever their texts
are, if their numbers can be stored; otherwise saving them fails and changes nothing. -/
theorem save_then_load (settings : Settings) (stored : Stored) :
    (settings.Storable → stored ≠ .directory →
      (settings.save false stored).1 = .ok () ∧ load (settings.save false stored).2 = .ok settings) ∧
    (¬ settings.Storable →
      ∃ message, settings.save false stored = (.error (.settingsRange message), stored)) := by
  constructor
  · intro hs hd
    rw [save_of_written (written_eq hs) hd]
    exact ⟨rfl, load_document hs⟩
  · intro hs
    obtain ⟨message, he⟩ := written_error hs
    exact ⟨message, save_of_error he stored⟩

def awkward : Settings where
  refreshInterval := some 9223372036854775807
  podmanCommand := some "\"\"\"'''\n\\\t\r\x00\x7f"
  connection := some ""
  podInfraImage := some "'''"

theorem awkward_survives :
    (awkward.save false .absent).1 = .ok () ∧ load (awkward.save false .absent).2 = .ok awkward ∧
      ∃ message, { awkward with listTimeout := some 9223372036854775808 }.save false
        (.file "connection = 'here'".toUTF8) =
          (.error (.settingsRange message), .file "connection = 'here'".toUTF8) := by
  have hs : awkward.Storable := ⟨by decide, by decide, by decide⟩
  obtain ⟨hsaved, hloaded⟩ := (save_then_load awkward .absent).1 hs nofun
  refine ⟨hsaved, hloaded, (save_then_load _ _).2 fun hlarge => ?_⟩
  have hfalse : ¬ InRange (some 9223372036854775808) := by decide
  exact hfalse hlarge.listTimeout

end Deckhand.Settings
