import Deckhand.Proofs.Board.Background
import Deckhand.Proofs.Board.Destruction
import Deckhand.Proofs.Create.Spec
import Deckhand.Proofs.Text.Blank

namespace Deckhand

namespace Kind

def Offers (kind : Kind) (action : Action) : Prop :=
  ∃ command ∈ catalog kind, command.action = action

instance (kind : Kind) (action : Action) : Decidable (kind.Offers action) :=
  List.decidableBEx (fun command : Command => command.action = action) (catalog kind)

/-- What is offered to be done to one resource of the kind, right away or after a question. -/
def OffersVerb (kind : Kind) (verb : Verb) : Prop :=
  kind.Offers (.run verb) ∨ verb = .remove ∧ kind.Offers (.confirm .remove) ∨
    verb = .kill ∧ kind.Offers (.confirm .kill)

end Kind

/-- What an operation for a page of the kind is made of, where `listed` holds of the ids that rows of
the kind have had. -/
def Operation.Fits (kind : Kind) (listed : String → Prop) : Operation → Prop
  | target _ verb id => listed id ∧ kind.OffersVerb verb
  | prune _ => kind.Offers (.confirm .prune)
  | rename id name => listed id ∧ kind.Offers (.prompt .rename) ∧ Text.IsTrimmed name
  | tag id name => listed id ∧ kind.Offers (.prompt .tag) ∧ Text.IsTrimmed name
  | untag id image => listed id ∧ kind.Offers (.prompt .untag) ∧ Text.IsTrimmed image
  | exec id command => listed id ∧ kind.Offers (.prompt .exec) ∧ command ≠ [] ∧
      ∀ word ∈ command, Text.IsWord word
  | search term => kind.Offers (.prompt .search) ∧ Text.IsTrimmed term
  | pull image => Text.IsTrimmed image
  | create spec => spec.Flawless
  | stats _ _ => False

structure Operation.WellFormed (kind : Kind) (listed : String → Prop) (operation : Operation) :
    Prop where
  kind_eq : operation.kind = kind
  fits : operation.Fits kind listed

theorem Command.offers {kind : Kind} {name : String} {command : Command}
    (h : find? kind name = some command) : kind.Offers command.action :=
  ⟨command, mem_of_find? h, rfl⟩

theorem Command.needsSelection_of_prompt (kind : Kind) (command : Command)
    (h : command ∈ catalog kind) (purpose : Purpose) (ha : command.action = .prompt purpose) :
    purpose = .search ∨ command.needsSelection = true := by
  revert command
  cases kind <;> cases purpose <;> decide +kernel

theorem Board.kind_promptedOperation {kind : Kind} {purpose : Purpose}
    (h : kind.Offers (.prompt purpose)) (id text : String) :
    (promptedOperation purpose id text).kind = kind := by
  revert h
  cases kind <;> cases purpose <;>
    first | exact fun _ => rfl | exact fun h => absurd h (by decide +kernel)

theorem Listing.use_down (listing : Listing) : listing.down.use = listing.use := by
  unfold Listing.down
  split <;> rfl

theorem Board.fits_promptedOperation {kind : Kind} {listed : String → Prop} {purpose : Purpose}
    {id text : String} (ho : kind.Offers (.prompt purpose)) (hid : purpose = .search ∨ listed id)
    (ht : Text.IsTrimmed text) : (promptedOperation purpose id text).Fits kind listed := by
  cases purpose with
  | search => exact ⟨ho, ht⟩
  | exec =>
    exact ⟨hid.resolve_left nofun, ho, ht.words_ne_nil, fun _ hw => Text.isWord_of_mem_words hw⟩
  | rename | tag | untag => exact ⟨hid.resolve_left nofun, ho, ht⟩

theorem Listing.isTrimmed_selectedImage? {listing : Listing} {image : String}
    (h : listing.selectedImage? = some image) : Text.IsTrimmed image := by
  obtain ⟨row, -, h⟩ := Option.bind_eq_some_iff.mp h
  obtain ⟨cell, -, h⟩ := Option.bind_eq_some_iff.mp h
  dsimp only at h
  split at h
  · cases h
  · rename_i hn
    cases h
    exact Text.isTrimmed_trim fun he => hn (String.isEmpty_iff.mpr he)

/-- What a dialog holds on to until it is handed in. -/
def Dialog.Grounded (kind : Kind) (listed : String → Prop) : Dialog → Prop
  | input prompt => kind.Offers (.prompt prompt.purpose) ∧
      (prompt.purpose = .search ∨ ∃ target, prompt.target = some target ∧ listed target.id)
  | create form => form.kind = kind
  | table listing => listing.use = .searchResults → kind = .images
  | commands _ | message _ | confirm _ | stats _ | progress _ => True

structure Page.Grounded (kind : Kind) (listed : String → Prop) (page : Page) : Prop where
  selection : ∀ ref, page.selection = some ref → listed ref.id
  confirmation : ∀ confirmation, page.confirmation = some confirmation →
    kind.Offers (.confirm confirmation.destruction) ∧
      ∀ target, confirmation.target = some target → listed target.id
  dialog : ∀ dialog, page.layers.dialog = some dialog → dialog.Grounded kind listed

section

variable {kind : Kind} {listed listed' : String → Prop} {key : Key} {dialog dialog' : Dialog}

theorem Dialog.Grounded.mono (h : dialog.Grounded kind listed)
    (hl : ∀ id, listed id → listed' id) : dialog.Grounded kind listed' := by
  cases dialog with
  | input prompt =>
    exact ⟨h.1, h.2.imp_right fun ⟨target, ht, hid⟩ => ⟨target, ht, hl target.id hid⟩⟩
  | _ => exact h

theorem Dialog.Grounded.edit (h : dialog.Grounded kind listed) (he : dialog.Edit key dialog') :
    dialog'.Grounded kind listed := by
  cases he with
  | @down dialog hl _ =>
    cases dialog with
    | table listing => exact fun hu => h (listing.use_down.symm.trans hu)
    | _ => exact h
  | @up dialog hl _ => cases dialog <;> exact h
  | push _ | pop _ | toggle _ | fill _ => exact h

theorem Dialog.grounded_of_resultDialog? {label : Label} {outcome : Outcome}
    (hl : label.verb = "search" → kind = .images)
    (h : Board.resultDialog? kind label outcome = some dialog) : dialog.Grounded kind listed := by
  cases outcome with
  | done | batch _ => cases h
  | text _ | lines _ | created _ =>
    cases h
    trivial
  | table report =>
    cases h
    intro hu
    cases hv : label.verb == "search" with
    | true => exact hl (beq_iff_eq.mp hv)
    | false => simp [Listing.new, hv] at hu

theorem Page.Grounded.of {page page' : Page} (h : page.Grounded kind listed)
    (hs : page'.selection = page.selection)
    (hc : page'.confirmation = page.confirmation ∨ page'.confirmation = none)
    (hd : ∀ dialog, page'.layers.dialog = some dialog →
      page.layers.dialog = some dialog ∨ dialog.Grounded kind listed) :
    page'.Grounded kind listed where
  selection ref hr := h.selection ref (hs ▸ hr)
  confirmation confirmation he := by
    obtain hsame | hnone := hc
    · exact h.confirmation confirmation (hsame ▸ he)
    · cases hnone.symm.trans he
  dialog dialog he := (hd dialog he).elim (h.dialog dialog) id

end

namespace Page

variable {c : Context} {kind : Kind} {listed listed' : String → Prop} {page page' : Page}
variable {event : Event} {output : Output} {key : Key} {command : Command} {operation : Operation}
variable {rest : Page}

theorem grounded_empty (kind : Kind) (listed : String → Prop) : empty.Grounded kind listed where
  selection _ h := by cases h
  confirmation _ h := by cases h
  dialog _ h := by cases h

theorem Grounded.mono (h : page.Grounded kind listed) (hl : ∀ id, listed id → listed' id) :
    page.Grounded kind listed' where
  selection ref hr := hl ref.id (h.selection ref hr)
  confirmation confirmation hc := by
    obtain ⟨ho, ht⟩ := h.confirmation confirmation hc
    exact ⟨ho, fun target he => hl target.id (ht target he)⟩
  dialog dialog hd := (h.dialog dialog hd).mono hl

theorem Grounded.reconcile (h : page.Grounded kind listed) {rows : List Row}
    (hr : ∀ row ∈ rows, listed row.id) : (page.reconcile rows).Grounded kind listed where
  selection ref hs := by
    obtain ⟨row, hrow, rfl⟩ := Option.map_eq_some_iff.mp hs
    exact hr row (List.mem_of_getElem? hrow)
  confirmation := h.confirmation
  dialog := h.dialog

theorem Grounded.clear (h : page.Grounded kind listed) : page.clear.Grounded kind listed :=
  h.of rfl (.inl rfl) fun _ hd => by cases hd

theorem Grounded.display (h : page.Grounded kind listed) {dialog : Dialog}
    (hd : dialog.Grounded kind listed) : (page.display dialog).Grounded kind listed :=
  h.of rfl (.inl rfl) fun _ he => .inr (by cases he; exact hd)

theorem Grounded.settle (h : page.Grounded kind listed) (id : OperationId) :
    (page.settle id).Grounded kind listed := by
  refine h.of rfl (.inl rfl) fun dialog hd => .inl ?_
  obtain hsame | ⟨-, -, -, hnone⟩ := page.dialog_settle id
  · exact hsame ▸ hd
  · cases hnone.symm.trans hd

theorem Picks.offers (hp : page.Picks kind key command) : kind.Offers command.action := by
  obtain ⟨-, picker, chosen, -, -, hn, -⟩ := hp
  exact Command.offers hn

theorem Grounded.prompt (h : page.Grounded kind listed) (hp : page.Picks kind key command)
    {purpose : Purpose} (ha : command.action = .prompt purpose) :
    (Dialog.input (.new purpose page.selection)).Grounded kind listed := by
  refine ⟨ha ▸ hp.offers, ?_⟩
  obtain ⟨-, picker, chosen, -, -, hn, hneeds⟩ := hp
  refine (Command.needsSelection_of_prompt kind command (Command.mem_of_find? hn) purpose
    ha).imp_right fun hs => ?_
  obtain ⟨target, ht⟩ := Option.isSome_iff_exists.mp (hneeds hs)
  exact ⟨target, ht, h.selection target ht⟩

theorem Submits.grounded (hs : page.Submits kind key operation rest)
    (h : page.Grounded kind listed) : rest.Grounded kind listed := by
  cases hs with
  | accept _ _ _ _ _ => exact h.of rfl (.inr rfl) fun _ hd => by cases hd
  | command _ _ _ | text _ _ _ | form _ _ _ | hit _ _ _ _ => exact h.clear

theorem Grounded.ask (h : page.Grounded kind listed) (hp : page.Picks kind key command)
    {destruction : Destruction} (ha : command.action = .confirm destruction) (confirm : Confirm) :
    Grounded kind listed { page.display (.confirm confirm) with
      confirmation := some ⟨destruction, page.selection⟩ } where
  selection := h.selection
  confirmation confirmation hc := by
    cases hc
    exact ⟨ha ▸ hp.offers, h.selection⟩
  dialog dialog hd := by
    cases hd
    trivial

theorem Step.grounded (hs : Step c page event page' output) (h : page.Grounded c.kind listed)
    (hr : ∀ row ∈ c.rows, listed row.id)
    (hl : ∀ id label result, event = .finished c.kind id label result →
      label.verb = "search" → c.kind = .images) :
    page'.Grounded c.kind listed := by
  cases hs with
  | keep | quit _ | refuseList | missSample _ | missFailure _ => exact h
  | dismiss _ _ | forgetCreate => exact h.of rfl (.inl rfl) fun _ hd => .inl hd
  | revisit _ _ | refresh => exact h.reconcile hr
  | move _ =>
    refine Grounded.reconcile ?_ hr
    exact h.of rfl (.inl rfl) fun _ hd => .inl hd
  | browse _ _ => exact (h.reconcile hr).display trivial
  | edit hf he => exact h.display ((h.dialog _ hf.2).edit he)
  | close _ _ | requestCreate _ _ | closeStats _ _ | refuse _ _ _ _ _ _ | failStats _ _ =>
    exact h.of rfl (.inl rfl) fun _ hd => by cases hd
  | cancel _ => exact h.of rfl (.inr rfl) fun _ hd => by cases hd
  | ask hp ha => exact h.ask hp ha _
  | prompt hp ha => exact h.display (h.prompt hp ha)
  | openStats _ _ => exact h.of rfl (.inl rfl) fun _ hd => .inr (by cases hd; trivial)
  | begin hsub _ =>
    exact (hsub.grounded h).of rfl (.inl rfl) fun _ hd => .inr (by cases hd; trivial)
  | busy hsub _ => exact hsub.grounded h
  | @reject _ create form _ hf _ _ =>
    have hkind : create.kind = c.kind := h.dialog _ hf.2
    exact h.of rfl (.inl rfl) fun _ hd => .inr (by cases hd; exact hkind)
  | sample _ _ => exact h.display trivial
  | fail => exact (h.settle _).of rfl (.inl rfl) fun _ hd => .inl hd
  | succeed _ | mention _ _ => exact h.settle _
  | present hd _ =>
    exact (h.settle _).display (Dialog.grounded_of_resultDialog? (hl _ _ _ rfl) hd)
  | openCreate _ _ hform =>
    exact h.of rfl (.inl rfl) fun _ hd =>
      .inr (by cases hd; exact CreateForm.kind_of_new? hform)

theorem Submits.wellFormed (hs : page.Submits kind key operation rest)
    (h : page.Grounded kind listed) : operation.WellFormed kind listed := by
  cases hs with
  | @command command verb target hp ha ht =>
    exact ⟨rfl, h.selection target ht, .inl (ha ▸ hp.offers)⟩
  | @accept confirm confirmation operation _ _ _ hc ho =>
    obtain ⟨hoffers, ht⟩ := h.confirmation confirmation hc
    cases Board.means_of_confirmedOperation? ho with
    | prune => exact ⟨rfl, hoffers⟩
    | remove => exact ⟨rfl, ht _ rfl, .inr (.inl ⟨rfl, hoffers⟩)⟩
    | kill => exact ⟨rfl, ht _ rfl, .inr (.inr ⟨rfl, hoffers⟩)⟩
  | @text prompt _ hf hn =>
    obtain ⟨hoffers, ht⟩ := h.dialog _ hf.2
    have htext : Text.IsTrimmed (Text.trim prompt.value) :=
      Text.isTrimmed_trim fun he => Bool.false_ne_true (hn.symm.trans (String.isEmpty_iff.mpr he))
    refine ⟨Board.kind_promptedOperation hoffers _ _,
      Board.fits_promptedOperation hoffers (ht.imp_right ?_) htext⟩
    rintro ⟨target, htarget, hid⟩
    rw [htarget]
    exact hid
  | @form create form spec hf _ hspec =>
    obtain ⟨hk, hspec⟩ := CreateForm.specOf_eq_ok hspec
    have hkind : create.kind = kind := h.dialog _ hf.2
    exact ⟨hk.trans hkind, hspec⟩
  | @hit listing image _ hf hu hi =>
    have hkind : kind = .images := h.dialog _ hf.2 hu
    exact ⟨hkind.symm, Listing.isTrimmed_selectedImage? hi⟩

end Page

end Deckhand
