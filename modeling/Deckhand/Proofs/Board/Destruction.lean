import Deckhand.Proofs.Board.History
import Deckhand.Proofs.Board.Submit

namespace Deckhand

def Operation.isDestructive : Operation → Bool
  | prune _ | target _ .remove _ | target _ .kill _ => true
  | _ => false

/-- The operation that a destructive command stands for, on what was selected when it was picked. -/
inductive Confirmation.Means (kind : Kind) : Confirmation → Operation → Prop
  | prune {target} : Means kind ⟨.prune, target⟩ (.prune kind)
  | remove {target : Ref} : Means kind ⟨.remove, some target⟩ (.target kind .remove target.id)
  | kill {target : Ref} : Means kind ⟨.kill, some target⟩ (.target kind .kill target.id)

theorem Board.means_of_confirmedOperation? {kind : Kind} {confirmation : Confirmation}
    {operation : Operation} (h : Board.confirmedOperation? kind confirmation = some operation) :
    confirmation.Means kind operation := by
  obtain ⟨destruction, target⟩ := confirmation
  cases destruction with
  | prune =>
    cases h
    exact .prune
  | remove =>
    cases target with
    | some target => cases h; exact .remove
    | none => cases h
  | kill =>
    cases target with
    | some target => cases h; exact .kill
    | none => cases h

namespace Command

theorem action_ne_run (kind : Kind) (command : Command) (h : command ∈ catalog kind) :
    command.action ≠ .run .remove ∧ command.action ≠ .run .kill := by
  revert command
  cases kind <;> decide +kernel

end Command

namespace Page

def Asks (kind : Kind) (confirmation : Confirmation) (page : Page) : Prop :=
  page.confirmation = some confirmation ∧ ∃ confirm,
    page.layers.dialog = some (.confirm confirm) ∧
    confirm.unfocused = .ofConfirmation kind confirmation

variable {c : Context} {page page' : Page} {event : Event} {output : Output} {kind : Kind}

theorem Sound.asks {confirmation : Confirmation} (h : page.Sound kind)
    (hc : page.confirmation = some confirmation) : page.Asks kind confirmation := by
  have hq := h.confirmation
  rw [hc, Option.map_some] at hq
  obtain ⟨confirm, hb, hu⟩ := Option.map_eq_some_iff.mp hq.symm
  obtain ⟨dialog, hd, hm⟩ := Option.bind_eq_some_iff.mp hb
  cases dialog with
  | confirm shown =>
    cases hm
    exact ⟨hc, _, hd, hu⟩
  | _ => cases hm

theorem Sound.picked {key : Key} {command : Command} (h : page.Sound kind)
    (hp : page.Picks kind key command) :
    ∃ picker, page.Faces (.commands picker) ∧ picker.selected? = some command := by
  obtain ⟨-, picker, chosen, hf, hs, hn, -⟩ := hp
  have hm : chosen ∈ catalog kind := by
    rw [← h.picker picker hf.2]
    exact List.mem_of_getElem? hs
  rw [Command.find?_of_mem kind chosen hm] at hn
  cases hn
  exact ⟨picker, hf, hs⟩

/-- A page that asks about a destructive command has just been told to, or it asked before, and at
most the focus has moved. -/
theorem Step.confirmation {confirmation : Confirmation} (hs : Step c page event page' output)
    (h : page.Sound c.kind) (hc : page'.confirmation = some confirmation) :
    (∃ key command, event = .key key ∧ page.Picks c.kind key command ∧
      command.action = .confirm confirmation.destruction ∧
      confirmation.target = page.selection ∧
      page'.layers.dialog = some (.confirm (.ofConfirmation c.kind confirmation))) ∨
    page.confirmation = some confirmation ∧ (page'.layers.dialog = page.layers.dialog ∨
      ∃ key confirm, event = .key key ∧ key.MovesFocus ∧ page.Faces (.confirm confirm) ∧
        page'.layers.dialog = some (.confirm confirm.toggle)) := by
  obtain ⟨-, shown, hd, -⟩ := (hs.sound h).asks hc
  cases hs with
  | keep | quit _ | refuseList | missSample _ | missFailure _ => exact .inr ⟨hc, .inl rfl⟩
  | dismiss | revisit | move | refresh | forgetCreate => exact .inr ⟨hc, .inl rfl⟩
  | @edit key dialog dialog' hf he =>
    cases hd
    obtain ⟨confirm, rfl, ht, hk⟩ := he.confirm (by rw [← he.closes]; rfl)
    exact .inr ⟨hc, .inr ⟨key, confirm, rfl, hk, hf, congrArg some ht⟩⟩
  | @ask key command destruction hp ha =>
    cases hc
    exact .inl ⟨key, command, rfl, hp, ha, rfl, rfl⟩
  | @fail id _ _ =>
    obtain ⟨-, he⟩ | ⟨-, -, hn⟩ := h.settle id
    · rw [he] at hc ⊢
      exact .inr ⟨hc, .inl rfl⟩
    · rw [layers_showError, hn] at hd
      cases hd
  | @succeed id _ _ _ | @mention id _ _ _ _ _ _ =>
    obtain ⟨-, he⟩ | ⟨-, -, hn⟩ := h.settle id
    · rw [he] at hc ⊢
      exact .inr ⟨hc, .inl rfl⟩
    · rw [hn] at hd
      cases hd
  | present hr _ =>
    cases hd
    cases (Board.resultDialog?_closes hr).1
  | busy hsub _ =>
    rw [(hsub.idle h).2] at hd
    cases hd
  | _ => cases hd

theorem Submits.accepts {key : Key} {operation : Operation} {rest : Page}
    (hs : page.Submits kind key operation rest) (hd : operation.isDestructive = true) :
    key.code = .enter ∧ ∃ confirm confirmation, page.Faces (.confirm confirm) ∧
      confirm.acceptFocused = true ∧ page.confirmation = some confirmation ∧
      confirmation.Means kind operation ∧ rest.confirmation = none := by
  cases hs with
  | @command command verb target hp ha ht =>
    obtain ⟨-, picker, chosen, -, -, hn, -⟩ := hp
    obtain ⟨hr, hk⟩ := Command.action_ne_run kind command (Command.mem_of_find? hn)
    rw [ha] at hr hk
    cases verb with
    | remove => exact absurd rfl hr
    | kill => exact absurd rfl hk
    | _ => cases hd
  | accept hk hf ha hc ho =>
    exact ⟨hk, _, _, hf, ha, hc, Board.means_of_confirmedOperation? ho, rfl⟩
  | @text prompt _ _ _ =>
    unfold Board.promptedOperation at hd
    split at hd <;> cases hd
  | form _ _ _ | hit _ _ _ _ => cases hd

end Page

namespace History

structure PicksDestruction (h : History) (n : Nat) (kind : Kind) (confirmation : Confirmation) :
    Prop where
  active : (h.board n).active = kind
  key : ∃ key, h.event? n = some (.key key) ∧ key.code = .enter
  command : ∃ picker command, (h.page n kind).Faces (.commands picker) ∧
    picker.selected? = some command ∧ command.action = .confirm confirmation.destruction
  target : confirmation.target = (h.page n kind).selection

structure MovesFocus (h : History) (n : Nat) (kind : Kind) : Prop where
  active : (h.board n).active = kind
  key : ∃ key, h.event? n = some (.key key) ∧ key.MovesFocus
  confirm : ∃ confirm, (h.page n kind).Faces (.confirm confirm) ∧
    (h.page (n + 1) kind).layers.dialog = some (.confirm confirm.toggle)

structure Accepts (h : History) (n : Nat) (kind : Kind) : Prop where
  active : (h.board n).active = kind
  key : ∃ key, h.event? n = some (.key key) ∧ key.code = .enter
  confirm : ∃ confirm, (h.page n kind).Faces (.confirm confirm) ∧ confirm.acceptFocused = true

/-- What was picked at one time is still asked about at a later time. -/
structure Pending (h : History) (pick n : Nat) (kind : Kind) (confirmation : Confirmation) :
    Prop where
  order : pick < n
  picked : h.PicksDestruction pick kind confirmation
  asked : ∀ m, pick < m → m ≤ n → (h.page m kind).Asks kind confirmation
  moved : ∀ confirm, (h.page n kind).layers.dialog = some (.confirm confirm) →
    confirm.acceptFocused = true → ∃ m, pick < m ∧ m < n ∧ h.MovesFocus m kind

/-- A destructive command is picked, the user is asked about it without a break, moves the focus and
accepts. -/
structure Confirmed (h : History) (pick accept : Nat) (kind : Kind)
    (confirmation : Confirmation) : Prop where
  order : pick < accept
  picked : h.PicksDestruction pick kind confirmation
  asked : ∀ m, pick < m → m ≤ accept → (h.page m kind).Asks kind confirmation
  moved : ∃ m, pick < m ∧ m < accept ∧ h.MovesFocus m kind
  accepted : h.Accepts accept kind

def Destroys (h : History) (n : Nat) : Prop :=
  ∃ kind id operation, .run kind id operation ∈ h.requests n ∧ operation.isDestructive = true

variable {h : History} {n pick : Nat} {kind : Kind} {confirmation : Confirmation}

theorem Pending.asked_succ (hp : h.Pending pick n kind confirmation)
    (hc : (h.page (n + 1) kind).confirmation = some confirmation) (m : Nat) (hl : pick < m)
    (hm : m ≤ n + 1) : (h.page m kind).Asks kind confirmation := by
  by_cases hn : m ≤ n
  · exact hp.asked m hl hn
  · have he : m = n + 1 := by omega
    subst he
    exact (h.sound (n + 1) kind).asks hc

theorem Pending.keep (hp : h.Pending pick n kind confirmation)
    (hc : (h.page (n + 1) kind).confirmation = some confirmation)
    (hd : (h.page (n + 1) kind).layers.dialog = (h.page n kind).layers.dialog) :
    h.Pending pick (n + 1) kind confirmation := by
  have hl := hp.order
  refine ⟨by omega, hp.picked, hp.asked_succ hc, ?_⟩
  intro confirm hs ha
  rw [hd] at hs
  obtain ⟨m, hpm, hmn, hm⟩ := hp.moved confirm hs ha
  exact ⟨m, hpm, by omega, hm⟩

theorem Pending.move (hp : h.Pending pick n kind confirmation)
    (hc : (h.page (n + 1) kind).confirmation = some confirmation) (hm : h.MovesFocus n kind) :
    h.Pending pick (n + 1) kind confirmation := by
  have hl := hp.order
  exact ⟨by omega, hp.picked, hp.asked_succ hc, fun _ _ _ => ⟨n, hl, by omega, hm⟩⟩

theorem exists_pending (hc : (h.page n kind).confirmation = some confirmation) :
    ∃ pick, h.Pending pick n kind confirmation := by
  induction n with
  | zero =>
    have hp : h.page 0 kind = .empty := PerKind.get_ofFn _ kind
    rw [hp] at hc
    cases hc
  | succ n ih =>
    obtain ⟨event, notice, he, ha, hs⟩ | hp | ⟨-, hp⟩ := h.page_succ n kind
    · obtain ⟨key, command, rfl, hpick, hact, ht, hd⟩ |
          ⟨hb, hd | ⟨key, confirm, rfl, hk, hf, hd⟩⟩ := hs.confirmation (h.sound n kind) hc
      · have hkey := hpick.1
        obtain ⟨picker, hf, hsel⟩ := (h.sound n kind).picked hpick
        refine ⟨n, by omega,
          ⟨Option.some.inj ha, ⟨key, he, hkey⟩, ⟨picker, command, hf, hsel, hact⟩, ht⟩, ?_, ?_⟩
        · intro m hl hm
          have hn : m = n + 1 := by omega
          subst hn
          exact (h.sound (n + 1) kind).asks hc
        · intro confirm hshow hfocus
          rw [hd] at hshow
          cases hshow
          cases hfocus
      · obtain ⟨pick, hp⟩ := ih hb
        exact ⟨pick, hp.keep hc hd⟩
      · obtain ⟨pick, hp⟩ := ih hb
        exact ⟨pick, hp.move hc ⟨Option.some.inj ha, ⟨key, he, hk⟩, confirm, hf, hd⟩⟩
    · obtain ⟨pick, hpend⟩ := ih (by rw [← hp]; exact hc)
      exact ⟨pick, hpend.keep hc (by rw [hp])⟩
    · obtain ⟨pick, hpend⟩ := ih (by rw [hp] at hc; exact hc)
      exact ⟨pick, hpend.keep hc (by rw [hp]; rfl)⟩

theorem confirmed_of_destroys {id : OperationId} {operation : Operation}
    (hr : .run kind id operation ∈ h.requests n) (hd : operation.isDestructive = true) :
    h.requests n = [.run kind id operation] ∧ (h.page (n + 1) kind).confirmation = none ∧
      ∃ pick confirmation, h.Confirmed pick n kind confirmation ∧
        confirmation.Means kind operation := by
  obtain ⟨event, shown, notice, he, ha, hs⟩ := step_of_mem_requests hr
  obtain ⟨key, rest, rfl, hsub, hpage, hk, -, hall⟩ := hs.submits hr
  have hkind : kind = shown := hk
  subst hkind
  obtain ⟨henter, confirm, confirmation, hf, hfocus, hc, hm, hrest⟩ := hsub.accepts hd
  obtain ⟨pick, hp⟩ := exists_pending hc
  refine ⟨hall, ?_, pick, confirmation, ⟨hp.order, hp.picked, hp.asked, ?_, ?_⟩, hm⟩
  · rw [hpage]
    exact hrest
  · exact hp.moved confirm hf.2 hfocus
  · exact ⟨Option.some.inj ha, ⟨key, he, henter⟩, confirm, hf, hfocus⟩

/-- After a confirmed operation nothing is asked, so that what was picked is not confirmed again. -/
theorem Confirmed.le_of_destroys {m : Nat} {other : Kind} {question : Confirmation}
    (hn : h.Confirmed pick n kind confirmation) (hm : h.Confirmed pick m other question)
    (hd : h.Destroys n) : m ≤ n := by
  obtain ⟨shown, id, operation, hr, hop⟩ := hd
  obtain ⟨-, hgone, _, _, hc, -⟩ := confirmed_of_destroys hr hop
  have hkind : other = shown := by
    rw [← hm.picked.active, hn.picked.active, ← hn.accepted.active, hc.accepted.active]
  subst hkind
  have hl := hn.order
  refine Nat.le_of_not_lt fun hlt => ?_
  have hasks := hm.asked (n + 1) (by omega) (by omega)
  rw [hasks.1] at hgone
  cases hgone

/-- In every history, what is destroyed was confirmed: the operation is run alone and on the active
page, it is the one that was picked there, with what was selected then, and no pick leads to two. -/
theorem destruction_is_confirmed (h : History) :
    (∀ n kind id operation, .run kind id operation ∈ h.requests n →
      operation.isDestructive = true →
      h.requests n = [.run kind id operation] ∧
        ∃ pick confirmation, h.Confirmed pick n kind confirmation ∧
          confirmation.Means kind operation) ∧
    ∀ pick n m kind other confirmation question, h.Destroys n → h.Destroys m →
      h.Confirmed pick n kind confirmation → h.Confirmed pick m other question → n = m := by
  refine ⟨?_, ?_⟩
  · intro n kind id operation hr hd
    obtain ⟨hall, -, hconf⟩ := confirmed_of_destroys hr hd
    exact ⟨hall, hconf⟩
  · intro pick n m kind other confirmation question hn hm hcn hcm
    have hmn : m ≤ n := hcn.le_of_destroys hcm hn
    have hnm : n ≤ m := hcm.le_of_destroys hcn hm
    omega

def removal : History where
  settings := {}
  tables := .empty
  incidents := [
    .rows .networks [⟨"9a", "backbone", []⟩],
    .event (.key ⟨.char '4', false, false, false⟩),
    .event (.key ⟨.enter, false, false, false⟩),
    .event (.key ⟨.up, false, false, false⟩),
    .event (.key ⟨.enter, false, false, false⟩),
    .rows .networks [],
    .event (.listRefreshed .networks),
    .event (.key ⟨.tab, false, false, false⟩),
    .event (.key ⟨.enter, false, false, false⟩)]

theorem removal_is_confirmed :
    .run .networks ⟨1⟩ (.target .networks .remove "9a") ∈ removal.requests 8 ∧
      ∃ pick confirmation, removal.Confirmed pick 8 .networks confirmation ∧
        confirmation.Means .networks (.target .networks .remove "9a") := by
  have hr : .run .networks ⟨1⟩ (.target .networks .remove "9a") ∈ removal.requests 8 := by
    decide +kernel
  exact ⟨hr, ((destruction_is_confirmed removal).1 8 _ _ _ hr rfl).2⟩

end History

end Deckhand
