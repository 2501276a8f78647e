import Deckhand.Proofs.Board.Handle

namespace Deckhand

namespace Dialog

def progress? : Dialog → Option OperationId
  | progress shown => some shown.id
  | _ => none

def monitor? : Dialog → Option Monitor
  | stats shown => some shown
  | _ => none

def confirm? : Dialog → Option Confirm
  | confirm shown => some shown
  | _ => none

theorem progress?_of_closes {dialog : Dialog} (h : dialog.closes = true) :
    dialog.progress? = none := by
  cases dialog with
  | progress _ => cases h
  | _ => rfl

theorem monitor?_of_closes {dialog : Dialog} (h : dialog.closes = true) :
    dialog.monitor? = none := by
  cases dialog with
  | stats _ => cases h
  | _ => rfl

theorem confirm?_of_closes {dialog : Dialog} (h : dialog.closes = true) :
    dialog.confirm? = none := by
  cases dialog with
  | confirm _ => cases h
  | _ => rfl

theorem closes_of_hasLines {dialog : Dialog} (h : dialog.hasLines = true) :
    dialog.closes = true := by
  cases dialog <;> first | rfl | cases h

end Dialog

theorem Picker.kind_down (picker : Picker) : picker.down.kind = picker.kind := by
  unfold Picker.down
  dsimp only
  split <;> rfl

theorem Picker.kind_up (picker : Picker) : picker.up.kind = picker.kind := by
  unfold Picker.up
  dsimp only
  split <;> rfl

namespace Dialog.Edit

variable {key : Key} {dialog dialog' : Dialog}

theorem closes (he : dialog.Edit key dialog') : dialog'.closes = dialog.closes := by
  cases he with
  | down _ _ | up _ _ => cases dialog <;> rfl
  | _ => rfl

theorem picker (he : dialog.Edit key dialog') {after : Picker} (h : dialog' = .commands after) :
    ∃ before, dialog = .commands before ∧ after.kind = before.kind := by
  cases he with
  | down _ _ =>
    cases dialog with
    | commands before => cases h; exact ⟨before, rfl, before.kind_down⟩
    | _ => cases h
  | up _ _ =>
    cases dialog with
    | commands before => cases h; exact ⟨before, rfl, before.kind_up⟩
    | _ => cases h
  | _ => cases h

theorem confirm (he : dialog.Edit key dialog') (h : dialog.closes = false) :
    ∃ confirm, dialog = .confirm confirm ∧ dialog' = .confirm confirm.toggle ∧
      key.MovesFocus := by
  cases he with
  | toggle hk => exact ⟨_, rfl, rfl, hk⟩
  | down hl _ | up hl _ => rw [closes_of_hasLines hl] at h; cases h
  | _ => cases h

end Dialog.Edit

theorem Board.resultDialog?_closes {kind : Kind} {label : Label} {outcome : Outcome}
    {dialog : Dialog} (h : Board.resultDialog? kind label outcome = some dialog) :
    dialog.closes = true ∧ ∀ picker, dialog ≠ .commands picker := by
  cases outcome with
  | done | batch _ => cases h
  | text _ | lines _ | table _ | created _ =>
    cases h
    exact ⟨rfl, fun _ he => by cases he⟩

def Confirm.unfocused (confirm : Confirm) : Confirm := { confirm with acceptFocused := false }

namespace Page

/-- What a page remembers is what its dialog needs. -/
structure Sound (kind : Kind) (page : Page) : Prop where
  inFlight : page.inFlight = page.layers.dialog.bind Dialog.progress?
  live : page.live = (page.layers.dialog.bind Dialog.monitor?).isSome
  confirmation : page.confirmation.map (Confirm.ofConfirmation kind) =
    (page.layers.dialog.bind Dialog.confirm?).map Confirm.unfocused
  picker : ∀ picker, page.layers.dialog = some (.commands picker) → picker.kind = kind

structure Idle (page : Page) : Prop where
  inFlight : page.inFlight = none
  live : page.live = false
  confirmation : page.confirmation = none

variable {kind : Kind} {page page' : Page}

theorem sound_empty (kind : Kind) : Page.empty.Sound kind :=
  ⟨rfl, rfl, rfl, fun _ h => by cases h⟩

theorem Sound.congr (h : page.Sound kind) (hd : page'.layers.dialog = page.layers.dialog)
    (hi : page'.inFlight = page.inFlight) (hl : page'.live = page.live)
    (hc : page'.confirmation = page.confirmation) : page'.Sound kind :=
  ⟨by rw [hi, hd]; exact h.inFlight, by rw [hl, hd]; exact h.live,
    by rw [hc, hd]; exact h.confirmation, by rw [hd]; exact h.picker⟩

theorem Idle.sound (h : page.Idle)
    (hd : ∀ dialog, page.layers.dialog = some dialog → dialog.closes = true)
    (hp : ∀ picker, page.layers.dialog = some (.commands picker) → picker.kind = kind) :
    page.Sound kind := by
  obtain ⟨hi, hl, hc⟩ := h
  refine ⟨?_, ?_, ?_, hp⟩ <;> cases hs : page.layers.dialog with
  | none => simp [hi, hl, hc]
  | some dialog =>
    have h := hd dialog hs
    simp [hi, hl, hc, Dialog.progress?_of_closes h, Dialog.monitor?_of_closes h,
      Dialog.confirm?_of_closes h]

theorem Sound.idle (h : page.Sound kind)
    (hd : ∀ dialog, page.layers.dialog = some dialog → dialog.closes = true) : page.Idle := by
  obtain ⟨hi, hl, hc, -⟩ := h
  cases hs : page.layers.dialog with
  | none =>
    simp only [hs, Option.bind_none, Option.map_none, Option.map_eq_none_iff] at hi hl hc
    exact ⟨hi, hl, hc⟩
  | some dialog =>
    have h := hd dialog hs
    simp only [hs, Option.bind_some, Dialog.progress?_of_closes h, Dialog.monitor?_of_closes h,
      Dialog.confirm?_of_closes h, Option.map_none, Option.map_eq_none_iff] at hi hl hc
    exact ⟨hi, hl, hc⟩

theorem Sound.idle_of_none (h : page.Sound kind) (hd : page.layers.dialog = none) : page.Idle :=
  h.idle fun _ hs => by rw [hd] at hs; cases hs

theorem Sound.idle_of_faces (h : page.Sound kind) {dialog : Dialog} (hf : page.Faces dialog)
    (hc : dialog.closes = true) : page.Idle :=
  h.idle fun _ hs => by
    cases hf.2.symm.trans hs
    exact hc

theorem Sound.idle_of_picks (h : page.Sound kind) {key : Key} {command : Command}
    (hp : page.Picks kind key command) : page.Idle := by
  obtain ⟨-, picker, chosen, hf, -⟩ := hp
  exact h.idle_of_faces hf rfl

theorem Submits.inFlight {key : Key} {operation : Operation} {rest : Page}
    (hs : page.Submits kind key operation rest) : rest.inFlight = page.inFlight := by
  cases hs <;> rfl

theorem Submits.idle {key : Key} {operation : Operation} {rest : Page} (h : page.Sound kind)
    (hs : page.Submits kind key operation rest) : rest.Idle ∧ rest.layers.dialog = none := by
  cases hs with
  | command hp _ _ =>
    obtain ⟨hi, hl, hc⟩ := h.idle_of_picks hp
    exact ⟨⟨hi, hl, hc⟩, rfl⟩
  | accept _ hf _ _ _ =>
    have hi := h.inFlight
    have hl := h.live
    simp only [hf.2, Option.bind_some, Dialog.progress?, Dialog.monitor?] at hi hl
    exact ⟨⟨hi, hl, rfl⟩, rfl⟩
  | text _ hf _ =>
    obtain ⟨hi, hl, hc⟩ := h.idle_of_faces hf rfl
    exact ⟨⟨hi, hl, hc⟩, rfl⟩
  | form hf _ _ =>
    obtain ⟨hi, hl, hc⟩ := h.idle_of_faces hf rfl
    exact ⟨⟨hi, hl, hc⟩, rfl⟩
  | hit _ hf _ _ =>
    obtain ⟨hi, hl, hc⟩ := h.idle_of_faces hf rfl
    exact ⟨⟨hi, hl, hc⟩, rfl⟩

theorem Sound.edit (h : page.Sound kind) {key : Key} {dialog dialog' : Dialog}
    (hf : page.Faces dialog) (he : dialog.Edit key dialog') :
    (page.display dialog').Sound kind := by
  cases hc : dialog.closes with
  | true =>
    obtain ⟨hi, hl, hn⟩ := h.idle_of_faces hf hc
    refine Idle.sound ⟨hi, hl, hn⟩ (fun _ hd => ?_) (fun picker hd => ?_)
    · cases hd
      rw [he.closes, hc]
    · obtain ⟨before, hb, hk⟩ := he.picker (Option.some.inj hd)
      rw [hk]
      exact h.picker before (hb ▸ hf.2)
  | false =>
    obtain ⟨confirm, rfl, rfl, -⟩ := he.confirm hc
    obtain ⟨hi, hl, hn, -⟩ := h
    simp only [hf.2, Option.bind_some] at hi hl hn
    exact ⟨hi, hl, hn, fun _ hd => by cases hd⟩

/-- The end of an operation concerns a page only if the page waits for it. -/
theorem Sound.settle (h : page.Sound kind) (id : OperationId) :
    page.inFlight ≠ some id ∧ page.settle id = page ∨
      page.inFlight = some id ∧ (page.settle id).Idle ∧ (page.settle id).layers.dialog = none := by
  have hi := h.inFlight
  by_cases hid : page.inFlight = some id
  · right
    rw [hi] at hid
    obtain ⟨dialog, hd, hp⟩ := Option.bind_eq_some_iff.mp hid
    cases dialog with
    | progress shown =>
      cases hp
      have hl := h.live
      have hc := h.confirmation
      simp only [hd, Option.bind_some, Dialog.progress?, Dialog.monitor?, Dialog.confirm?,
        Option.map_none, Option.map_eq_none_iff] at hi hl hc
      have hs : page.layers.hideProgress shown.id = { page.layers with dialog := none } := by
        simp [Layers.hideProgress, Layers.showsProgress, hd]
      refine ⟨hi, ⟨by simp [Page.settle, hi], hl, hc⟩, ?_⟩
      simp only [Page.settle, hs]
    | _ => cases hp
  · left
    refine ⟨hid, ?_⟩
    have hs : page.layers.showsProgress id = false := by
      unfold Layers.showsProgress
      split
      · rename_i shown hd
        rw [hi, hd] at hid
        exact decide_eq_false fun he => hid (he ▸ rfl)
      · rfl
    simp [Page.settle, Layers.hideProgress, hs, hid]

theorem Sound.settle_sound (h : page.Sound kind) (id : OperationId) :
    (page.settle id).Sound kind := by
  obtain ⟨-, he⟩ | ⟨-, hi, hd⟩ := h.settle id
  · rwa [he]
  · exact hi.sound (fun _ hs => by rw [hd] at hs; cases hs) (fun _ hs => by rw [hd] at hs; cases hs)

theorem Step.sound {c : Context} {event : Event} {output : Output}
    (hs : Step c page event page' output) (h : page.Sound c.kind) : page'.Sound c.kind := by
  cases hs with
  | keep | quit _ | refuseList | missSample _ | missFailure _ => exact h
  | dismiss | revisit | move | refresh | forgetCreate => exact h.congr rfl rfl rfl rfl
  | browse _ hb =>
    obtain ⟨hi, hl, hc⟩ := h.idle_of_none hb.2
    exact Idle.sound ⟨hi, hl, hc⟩ (fun _ hd => by cases hd; rfl) (fun _ hd => by cases hd; rfl)
  | edit hf he => exact h.edit hf he
  | close hf hc =>
    obtain ⟨hi, hl, hc⟩ := h.idle_of_faces hf hc
    exact Idle.sound ⟨hi, hl, hc⟩ (fun _ hd => by cases hd) (fun _ hd => by cases hd)
  | cancel hf =>
    have hi := h.inFlight
    have hl := h.live
    simp only [hf.2, Option.bind_some] at hi hl
    exact ⟨hi, hl, rfl, fun _ hd => by cases hd⟩
  | refuse _ hf _ _ _ _ =>
    obtain ⟨hi, hl, hc⟩ := h.idle_of_faces hf rfl
    exact Idle.sound ⟨hi, hl, hc⟩ (fun _ hd => by cases hd) (fun _ hd => by cases hd)
  | ask hp _ =>
    obtain ⟨hi, hl, hc⟩ := h.idle_of_picks hp
    exact ⟨hi, hl, rfl, fun _ hd => by cases hd⟩
  | prompt hp _ =>
    obtain ⟨hi, hl, hc⟩ := h.idle_of_picks hp
    exact Idle.sound ⟨hi, hl, hc⟩ (fun _ hd => by cases hd; rfl) (fun _ hd => by cases hd)
  | requestCreate hp _ =>
    obtain ⟨hi, hl, hc⟩ := h.idle_of_picks hp
    exact Idle.sound ⟨hi, hl, hc⟩ (fun _ hd => by cases hd) (fun _ hd => by cases hd)
  | openStats hp _ =>
    obtain ⟨hi, hl, hc⟩ := h.idle_of_picks hp
    exact ⟨hi, rfl, congrArg _ hc, fun _ hd => by cases hd⟩
  | begin hsub hq =>
    obtain ⟨⟨hi, hl, hc⟩, -⟩ := hsub.idle h
    exact ⟨rfl, hl, congrArg _ hc, fun _ hd => by cases hd⟩
  | busy hsub hq =>
    obtain ⟨hi, hd⟩ := hsub.idle h
    cases hi.inFlight.symm.trans hq
  | reject hf _ _ =>
    obtain ⟨hi, hl, hc⟩ := h.idle_of_faces hf rfl
    exact Idle.sound ⟨hi, hl, hc⟩ (fun _ hd => by cases hd; rfl) (fun _ hd => by cases hd)
  | closeStats _ hf =>
    have hi := h.inFlight
    have hc := h.confirmation
    simp only [hf.2, Option.bind_some] at hi hc
    exact ⟨hi, rfl, hc, fun _ hd => by cases hd⟩
  | failStats hd _ =>
    have hi := h.inFlight
    have hc := h.confirmation
    simp only [hd, Option.bind_some] at hi hc
    exact ⟨hi, rfl, hc, fun _ hd => by cases hd⟩
  | sample hd _ =>
    obtain ⟨hi, hl, hc, -⟩ := h
    simp only [hd, Option.bind_some] at hi hl hc
    exact ⟨hi, hl, hc, fun _ hd => by cases hd⟩
  | fail => exact (h.settle_sound _).congr rfl rfl rfl rfl
  | succeed _ => exact h.settle_sound _
  | mention _ _ => exact h.settle_sound _
  | @present id label outcome dialog hr hn =>
    obtain ⟨hi, hl, hc⟩ := (h.settle_sound id).idle_of_none hn
    obtain ⟨hcl, hp⟩ := Board.resultDialog?_closes hr
    refine Idle.sound ⟨hi, hl, hc⟩ (fun _ hd => ?_) (fun _ hd => ?_)
    · cases hd
      exact hcl
    · cases hd
      exact absurd rfl (hp _)
  | openCreate _ hn _ =>
    obtain ⟨hi, hl, hc⟩ := h.idle_of_none hn
    exact Idle.sound ⟨hi, hl, hc⟩ (fun _ hd => by cases hd; rfl) (fun _ hd => by cases hd)

end Page

namespace Board

def Sound (board : Board) : Prop := ∀ kind, (board.page kind).Sound kind

theorem sound_new (settings : Settings) (tables : Tables) : (new settings tables).Sound := by
  intro kind
  have hp : (new settings tables).page kind = .empty := PerKind.get_ofFn _ kind
  rw [hp]
  exact Page.sound_empty kind

theorem Sound.handle {board : Board} (h : board.Sound) (event : Event) :
    (board.handle event).board.Sound := by
  intro kind
  by_cases ha : board.addressee event = some kind
  · obtain ⟨notice, hs, -⟩ := handle_step ha
    exact hs.sound (h kind)
  · obtain he | ⟨-, he⟩ := handle_page_of_ne ha
    · rw [he]
      exact h kind
    · rw [he]
      exact (h kind).congr rfl rfl rfl rfl

theorem Sound.replaceRows {board : Board} (h : board.Sound) (kind : Kind) (rows : List Row) :
    (board.replaceRows kind rows).Sound := h

end Board

end Deckhand
