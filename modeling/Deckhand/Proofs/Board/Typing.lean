import Deckhand.Proofs.Board.Focus
import Deckhand.Proofs.Board.WellFormed

namespace Deckhand

def Key.Edits (key : Key) : Prop :=
  key.isInterrupt = false ∧ ((∃ c, key.code = .char c) ∨ key.code = .backspace)

def Text.typed (text : String) (key : Key) : String :=
  match key.code with
  | .char c => text.push c
  | .backspace => String.ofList text.toList.dropLast
  | _ => text

def Purpose.prefilled (target : Option Ref) : Purpose → String
  | untag => (target.map (·.name)).getD ""
  | rename | tag | exec | search => ""

/-- The operation that a text is asked for, on a resource unless it is a search. -/
inductive Purpose.Means (target : Option Ref) (text : String) : Purpose → Operation → Prop where
  | rename {ref} : target = some ref → Means target text .rename (.rename ref.id text)
  | tag {ref} : target = some ref → Means target text .tag (.tag ref.id text)
  | untag {ref} : target = some ref → Means target text .untag (.untag ref.id text)
  | exec {ref} : target = some ref → Means target text .exec (.exec ref.id (Text.words text))
  | search : Means target text .search (.search text)

theorem Prompt.new_eq (purpose : Purpose) (target : Option Ref) :
    Prompt.new purpose target = ⟨purpose, target, purpose.prefilled target⟩ := by
  cases purpose <;> cases target <;> rfl

theorem Purpose.means_promptedOperation {purpose : Purpose} {target : Option Ref}
    (h : purpose = .search ∨ target.isSome = true) (text : String) :
    purpose.Means target text
      (Board.promptedOperation purpose ((target.map (·.id)).getD "") text) := by
  cases target with
  | some ref =>
    cases purpose with
    | rename => exact .rename rfl
    | tag => exact .tag rfl
    | untag => exact .untag rfl
    | exec => exact .exec rfl
    | search => exact .search
  | none =>
    obtain rfl | h := h
    · exact .search
    · cases h

theorem Dialog.Edit.input {key : Key} {dialog dialog' : Dialog} (he : dialog.Edit key dialog')
    {after : Prompt} (h : dialog' = .input after) : ∃ before, dialog = .input before := by
  cases he with
  | push _ | pop _ => exact ⟨_, rfl⟩
  | down hl _ | up hl _ =>
    cases dialog with
    | commands _ | message _ | table _ => cases h
    | _ => cases hl
  | _ => cases h

theorem Board.resultDialog?_ne_input {kind : Kind} {label : Label} {outcome : Outcome}
    {prompt : Prompt} : Board.resultDialog? kind label outcome ≠ some (.input prompt) := by
  cases outcome <;> exact nofun

namespace Page

variable {c : Context} {kind : Kind} {page page' : Page} {event : Event} {output : Output}
  {prompt : Prompt} {key : Key}

theorem Step.opens_prompt (hs : Step c page event page' output) (h : page.Sound c.kind)
    (hp : ∀ prompt, page.layers.dialog ≠ some (.input prompt))
    (hp' : page'.layers.dialog = some (.input prompt)) :
    ∃ key command, event = .key key ∧ page.Picks c.kind key command ∧
      command.action = .prompt prompt.purpose ∧
      page'.Faces (.input (.new prompt.purpose page.selection)) := by
  cases hs with
  | prompt hpick ha =>
    cases hp'
    have ⟨_, _, _, hf, _⟩ := hpick
    exact ⟨_, _, rfl, hpick, ha, hf.1, rfl⟩
  | keep | quit _ | refuseList | missSample _ | missFailure _ => exact absurd hp' (hp prompt)
  | dismiss | revisit | move | refresh | forgetCreate => exact absurd hp' (hp prompt)
  | edit hf he =>
    obtain ⟨before, hb⟩ := he.input (Option.some.inj hp')
    exact absurd (hb ▸ hf.2) (hp before)
  | @fail id _ _ | @succeed id _ _ _ | @mention id _ _ _ _ _ _ =>
    obtain ⟨-, he⟩ | ⟨-, -, hn⟩ := h.settle id
    · rw [he] at hp'
      exact absurd hp' (hp prompt)
    · cases hn.symm.trans hp'
  | present hr _ =>
    cases hp'
    exact absurd hr Board.resultDialog?_ne_input
  | busy hsub _ => cases (hsub.idle h).2.symm.trans hp'
  | _ => cases hp'

end Page

namespace Board

variable {board : Board} {prompt : Prompt} {key : Key}

theorem handle_edits (hk : key.Edits) (hf : board.activePage.Faces (.input prompt)) :
    board.handle (.key key) = (board.heard (.key key)).update board.active
      (.input { prompt with value := Text.typed prompt.value key }) := by
  obtain ⟨hi, hcode⟩ := hk
  rw [handle_of_faces hi hf, dialogKey]
  obtain ⟨c, hc⟩ | hc := hcode
  · simp only [Dialog.hasLines, Bool.false_and, Bool.false_eq_true, if_false, active_heard,
      promptKey, hc, Text.typed]
    rfl
  · simp only [Dialog.hasLines, Bool.false_and, Bool.false_eq_true, if_false, active_heard,
      promptKey, hc, Text.typed]
    rfl

theorem handle_enter_blank (hk : key.code = .enter) (hf : board.activePage.Faces (.input prompt))
    (hb : Text.trim prompt.value = "") :
    board.handle (.key key) =
      .quiet (((board.heard (.key key)).modifyPage board.active (·.hide .input)).touch) := by
  rw [handle_enter hk hf, dialogKey]
  simp only [Dialog.hasLines, Bool.false_and, Bool.false_eq_true, if_false, active_heard, promptKey,
    hk, submitText, hb]
  rfl

end Board

namespace History

def key? (h : History) (n : Nat) : Option Key :=
  match h.event? n with
  | some (.key key) => some key
  | _ => none

def keys (h : History) (start n : Nat) : List Key :=
  (List.range' start (n - start)).filterMap h.key?

/-- What has been typed into a prompt since the step that opened it. -/
def typed (h : History) (opening n : Nat) (kind : Kind) (purpose : Purpose) : String :=
  (h.keys (opening + 1) n).foldl Text.typed (purpose.prefilled (h.page opening kind).selection)

/-- A prompt is opened by the one step, and the user types into it until Enter in the other. -/
structure Types (h : History) (opening n : Nat) (kind : Kind) (purpose : Purpose) : Prop where
  order : opening < n
  closed : ∀ prompt, (h.page opening kind).layers.dialog ≠ some (.input prompt)
  opened : ∃ prompt, (h.page (opening + 1) kind).layers.dialog = some (.input prompt) ∧
    prompt.purpose = purpose
  keys : ∀ m key, opening < m → m < n → h.event? m = some (.key key) → key.Edits
  undisturbed : ∀ m, opening + 1 < m → m ≤ n → (h.page m kind).layers.error = none
  enter : ∃ key, h.event? n = some (.key key) ∧ key.code = .enter

variable {h : History} {i n m : Nat} {kind : Kind} {purpose : Purpose} {prompt : Prompt}

theorem event_of_key? {key : Key} (hk : h.key? n = some key) : h.event? n = some (.key key) := by
  unfold key? at hk
  split at hk
  · rename_i other he
    cases hk
    exact he
  · cases hk

theorem typed_opening (h : History) (i : Nat) (kind : Kind) (purpose : Purpose) :
    h.typed i (i + 1) kind purpose = purpose.prefilled (h.page i kind).selection := by
  simp [typed, keys]

theorem keys_succ (hl : i ≤ m) : h.keys i (m + 1) = h.keys i m ++ (h.key? m).toList := by
  have hlength : m + 1 - i = (m - i) + 1 := by omega
  have hlast : i + 1 * (m - i) = m := by omega
  unfold keys
  rw [hlength, List.range'_concat, List.filterMap_append, hlast]
  cases hk : h.key? m <;> simp [hk]

theorem typed_succ (hl : i < m) : h.typed i (m + 1) kind purpose =
    (h.key? m).toList.foldl Text.typed (h.typed i m kind purpose) := by
  unfold typed
  rw [keys_succ hl, List.foldl_append]

theorem active_succ_of_atDialog (ha : (h.board m).active = kind)
    (hd : (h.page m kind).AtDialog) : (h.board (m + 1)).active = kind := by
  obtain ⟨dialog, hf, hs⟩ := hd
  cases he : h.event? m with
  | none => obtain hb | ⟨_, _, hb⟩ := board_succ_of_no_event he <;> rw [hb] <;> exact ha
  | some event =>
    rw [board_succ_of_event he]
    obtain hb | ⟨key, -, -, hb | ⟨progress, hb⟩⟩ := Board.handle_active (h.board m) event
    · rw [hb]
      exact ha
    · subst ha
      cases hb.2.symm.trans hf.2
    · subst ha
      cases hb.2.symm.trans hf.2
      exact absurd rfl hs

theorem dialog_succ_of_no_key (hd : (h.page m kind).layers.dialog = some (.input prompt))
    (hk : h.key? m = none) : (h.page (m + 1) kind).layers.dialog = some (.input prompt) := by
  cases he : h.event? m with
  | none =>
    rw [page_succ_of_no_event he]
    exact hd
  | some event =>
    have hpage : h.page (m + 1) kind = ((h.board m).handle event).board.page kind := by
      rw [page, board_succ_of_event he]
    rw [hpage]
    cases event with
    | key key => simp [key?, he] at hk
    | resize width height => exact hd
    | _ => exact (Board.page_respected_by_background _ _ rfl kind).forUser _ hd rfl

theorem dialog_succ_of_key {key : Key} (ha : (h.board m).active = kind)
    (hf : (h.page m kind).Faces (.input prompt)) (he : h.event? m = some (.key key))
    (hk : key.Edits) : (h.page (m + 1) kind).layers.dialog =
      some (.input { prompt with value := Text.typed prompt.value key }) := by
  subst ha
  rw [page, board_succ_of_event he, Board.handle_edits hk hf, Board.update, Reaction.quiet,
    Board.page_modifyPage_self]
  rfl

theorem Types.exists_pick (ht : h.Types i n kind purpose) :
    (h.board (i + 1)).active = kind ∧
      (purpose = .search ∨ (h.page i kind).selection.isSome = true) ∧
      (h.page (i + 1) kind).Faces (.input (.new purpose (h.page i kind).selection)) := by
  obtain ⟨prompt, hd, rfl⟩ := ht.opened
  obtain ⟨event, notice, he, ha, hs⟩ | hs | ⟨-, hs⟩ := h.page_succ i kind
  · obtain ⟨key, command, rfl, hpick, haction, hf⟩ :=
      hs.opens_prompt (h.sound i kind) ht.closed hd
    have hactive : (h.board i).active = kind := Option.some.inj ha
    have hsame := active_succ_of_atDialog hactive hpick.atDialog
    obtain ⟨-, picker, chosen, -, -, hfind, hneeds⟩ := hpick
    have hmem := Command.mem_of_find? hfind
    have htarget := Command.needsSelection_of_prompt kind command hmem prompt.purpose haction
    exact ⟨hsame, htarget.imp_right hneeds, hf⟩
  · rw [hs] at hd
    exact absurd hd (ht.closed prompt)
  · rw [hs] at hd
    exact absurd hd (ht.closed prompt)

/-- The prompt holds what has been typed, and its resource is the one of the opening. -/
theorem Types.faces (ht : h.Types i n kind purpose) (m : Nat) (hl : i < m) (hm : m ≤ n) :
    (h.board m).active = kind ∧ (h.page m kind).Faces (.input
      ⟨purpose, (h.page i kind).selection, h.typed i m kind purpose⟩) := by
  obtain ⟨hactive, -, hopened⟩ := ht.exists_pick
  -- The step behind the opening is where the induction starts.
  induction m with
  | zero => omega
  | succ m ih =>
    by_cases him : i = m
    · subst him
      rw [Prompt.new_eq] at hopened
      rw [typed_opening]
      exact ⟨hactive, hopened⟩
    obtain ⟨ha, hf⟩ := ih (by omega) (by omega)
    refine ⟨active_succ_of_atDialog ha ⟨_, hf, nofun⟩, ht.undisturbed (m + 1) (by omega) hm, ?_⟩
    rw [typed_succ (by omega)]
    cases hk : h.key? m with
    | none => exact dialog_succ_of_no_key hf.2 hk
    | some key =>
      have he := event_of_key? hk
      exact dialog_succ_of_key ha hf he (ht.keys m key (by omega) (by omega) he)

/-- In every history, Enter hands in exactly the text that has been typed into a prompt, without the
blanks around it, for the resource that was selected when the prompt was opened. If nothing is left
of the text, the prompt is only closed. -/
theorem typed_text_is_handed_in (h : History) {i n : Nat} {kind : Kind} {purpose : Purpose}
    (ht : h.Types i n kind purpose) :
    (Text.trim (h.typed i n kind purpose) = "" →
      h.requests n = [] ∧ (h.board (n + 1)).active = kind ∧
        (h.page (n + 1) kind).layers.focus = .table) ∧
    (Text.trim (h.typed i n kind purpose) ≠ "" → ∃ id operation,
      h.requests n = [.run kind id operation] ∧
        purpose.Means (h.page i kind).selection (Text.trim (h.typed i n kind purpose))
          operation) := by
  obtain ⟨key, he, hk⟩ := ht.enter
  obtain ⟨ha, hf⟩ := ht.faces n ht.order (Nat.le_refl n)
  obtain ⟨-, htarget, -⟩ := ht.exists_pick
  have hactive := active_succ_of_atDialog ha ⟨_, hf, nofun⟩
  have hidle := ((h.sound n kind).idle_of_faces hf rfl).inFlight
  subst ha
  constructor
  · intro hblank
    have hhandle := Board.handle_enter_blank hk hf hblank
    have hpage : h.page (n + 1) (h.board n).active = (h.page n (h.board n).active).clear := by
      rw [page, board_succ_of_event he, hhandle, Reaction.quiet, Board.page_touch,
        Board.page_modifyPage_self, Board.page_heard]
      exact Page.hide_eq_clear .input hf.2 rfl
    have hrequests : h.requests n = [] := by
      rw [requests_of_event he, hhandle]
      rfl
    refine ⟨hrequests, hactive, ?_⟩
    rw [hpage]
    exact Layers.focus_eq_table_iff.mpr ⟨hf.1, rfl⟩
  · intro htext
    have hsubmits : (h.board n).activePage.Submits (h.board n).active key _ _ :=
      .text hk hf (String.isEmpty_eq_false_iff.mpr htext)
    have hrequests := Board.requests_of_submits hsubmits hidle
    rw [← requests_of_event he] at hrequests
    exact ⟨_, _, hrequests, Purpose.means_promptedOperation htarget _⟩

def untagging : History where
  settings := {}
  tables := .empty
  incidents := [
    .rows .images [⟨"5e", "web:1", []⟩],
    .event (.key { code := .char '3' }),
    .event (.key { code := .enter }),
    .event (.key { code := .up }),
    .event (.key { code := .enter }),
    .event (.key { code := .backspace }),
    .rows .images [],
    .event (.listRefreshed .images),
    .event (.key { code := .char '2' }),
    .event (.key { code := .enter })]

theorem types_untagging : untagging.Types 4 9 .images .untag := by
  have hpicker : (untagging.page 4 .images).layers.dialog = some (.commands ⟨.images, 7⟩) := by
    decide +kernel
  have hprompt : (untagging.page 5 .images).layers.dialog =
      some (.input ⟨.untag, some ⟨"5e", "web:1"⟩, "web:1"⟩) := by decide +kernel
  refine ⟨by decide, ?_, ⟨_, hprompt, rfl⟩, ?_, ?_, ⟨{ code := .enter }, rfl, rfl⟩⟩
  · intro prompt hd
    cases hpicker.symm.trans hd
  · intro m key hl hm he
    have hm : m = 5 ∨ m = 6 ∨ m = 7 ∨ m = 8 := by omega
    obtain rfl | rfl | rfl | rfl := hm
    · cases he
      exact ⟨rfl, .inr rfl⟩
    · cases he
    · cases he
    · cases he
      exact ⟨rfl, .inl ⟨'2', rfl⟩⟩
  · intro m hl hm
    have hm : m = 6 ∨ m = 7 ∨ m = 8 ∨ m = 9 := by omega
    obtain rfl | rfl | rfl | rfl := hm <;> decide +kernel

theorem changed_name_is_removed : untagging.Types 4 9 .images .untag ∧
    ∃ id, untagging.requests 9 = [.run .images id (.untag "5e" "web:2")] := by
  have htarget : (untagging.page 4 .images).selection = some ⟨"5e", "web:1"⟩ := by decide +kernel
  have htext : Text.trim (untagging.typed 4 9 .images .untag) = "web:2" := by decide +kernel
  obtain ⟨id, operation, hrequests, hmeans⟩ := (typed_text_is_handed_in untagging
    types_untagging).2 (by rw [htext]; decide)
  rw [htarget, htext] at hmeans
  refine ⟨types_untagging, id, ?_⟩
  cases hmeans with
  | untag ht =>
    cases ht
    exact hrequests

end History

end Deckhand
