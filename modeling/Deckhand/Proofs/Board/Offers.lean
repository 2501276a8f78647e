import Deckhand.Proofs.Board.Background
import Deckhand.Proofs.Board.History

namespace Deckhand

namespace Page

variable {c : Context} {kind : Kind} {page page' : Page} {event : Event} {output : Output}

theorem Submits.pendingCreate {key : Key} {operation : Operation} {rest : Page}
    (hs : page.Submits kind key operation rest) : rest.pendingCreate = page.pendingCreate := by
  cases hs <;> rfl

theorem loadChoices_notMem_ite {asked : Bool} {request : Request}
    (h : request ≠ .loadChoices kind) :
    .loadChoices kind ∉ (if asked then [request] else []) := by
  intro hmem
  cases asked with
  | true => exact h (List.mem_singleton.mp hmem).symm
  | false => cases hmem

theorem Step.kind_of_loadChoices (hs : Step c page event page' output)
    (hr : .loadChoices kind ∈ output.requests) : kind = c.kind := by
  cases hs with
  | requestCreate _ _ => cases List.mem_singleton.mp hr; rfl
  | closeStats _ _ | failStats _ _ | succeed _ | present _ _ | mention _ _ =>
    exact absurd hr (loadChoices_notMem_ite (by simp))
  | quit _ | openStats _ _ | begin _ _ => cases List.mem_singleton.mp hr
  | _ => cases hr

theorem Step.pendingCreate_iff (hs : Step c page event page' output) :
    page'.pendingCreate = true ↔ .loadChoices c.kind ∈ output.requests ∨
      page.pendingCreate = true ∧ ∀ choices, event ≠ .choicesLoaded c.kind choices := by
  -- Most steps ask for no lists and leave the page waiting as it was.
  have hkeep {after : Page} {requests : List Request}
      (he : ∀ choices, event ≠ .choicesLoaded c.kind choices)
      (hr : .loadChoices c.kind ∉ requests) (hp : after.pendingCreate = page.pendingCreate) :
      after.pendingCreate = true ↔ .loadChoices c.kind ∈ requests ∨
        page.pendingCreate = true ∧ ∀ choices, event ≠ .choicesLoaded c.kind choices := by
    rw [hp]
    exact ⟨fun h => .inr ⟨h, he⟩, fun h => (h.resolve_left hr).1⟩
  cases hs with
  | requestCreate _ _ => exact ⟨fun _ => .inl (List.mem_singleton.mpr rfl), fun _ => rfl⟩
  | @openCreate choices _ _ _ _ | @forgetCreate choices =>
    refine ⟨fun h => (by cases h), fun h => ?_⟩
    obtain hmem | ⟨-, hne⟩ := h
    · cases hmem
    · exact absurd rfl (hne choices)
  | begin hsub _ => exact hkeep (fun _ h => by cases h) (by simp) hsub.pendingCreate
  | busy hsub _ => exact hkeep (fun _ h => by cases h) (by simp) hsub.pendingCreate
  | closeStats _ _ | failStats _ _ | succeed _ | present _ _ | mention _ _ =>
    exact hkeep (fun _ h => by cases h) (loadChoices_notMem_ite (by simp)) rfl
  | _ => exact hkeep (fun _ h => by cases h) (by simp) rfl

end Page

namespace History

variable {h : History} {n : Nat} {kind : Kind}

def Creates (h : History) (n : Nat) (kind : Kind) : Prop := .loadChoices kind ∈ h.requests n

instance : Decidable (h.Creates n kind) :=
  inferInstanceAs (Decidable (Request.loadChoices kind ∈ h.requests n))

def Supplies (h : History) (n : Nat) (kind : Kind) : Prop :=
  ∃ choices, h.event? n = some (.choicesLoaded kind choices)

/-- Lists that arrive were loaded for one of the commands before, and for each command they are
loaded once. `source` says for which. -/
structure Loads (h : History) (source : Nat → Nat) : Prop where
  asked : ∀ n kind, h.Supplies n kind → source n < n ∧ h.Creates (source n) kind
  once : ∀ n n' kind, h.Supplies n kind → h.Supplies n' kind → source n = source n' → n = n'

/-- A command has been run, and no lists have arrived since. -/
def Awaits (h : History) (n : Nat) (kind : Kind) : Prop :=
  ∃ m < n, h.Creates m kind ∧ ∀ k, m < k → k < n → ¬ h.Supplies k kind

theorem awaits_succ : h.Awaits (n + 1) kind ↔
    h.Creates n kind ∨ h.Awaits n kind ∧ ¬ h.Supplies n kind := by
  constructor
  · rintro ⟨m, hm, hc, hno⟩
    obtain rfl | hlt := Nat.eq_or_lt_of_le (Nat.le_of_lt_succ hm)
    · exact .inl hc
    · exact .inr ⟨⟨m, hlt, hc, fun k hmk hkn => hno k hmk (by omega)⟩, hno n hlt (by omega)⟩
  · rintro (hc | ⟨⟨m, hm, hc, hno⟩, hn⟩)
    · exact ⟨n, by omega, hc, fun k hnk hkn => by omega⟩
    · refine ⟨m, by omega, hc, fun k hmk hkn => ?_⟩
      obtain rfl | hlt := Nat.eq_or_lt_of_le (Nat.le_of_lt_succ hkn)
      · exact hn
      · exact hno k hmk hlt

theorem addressee_of_creates (hc : h.Creates n kind) :
    ∃ event, h.event? n = some event ∧ (h.board n).addressee event = some kind := by
  obtain ⟨event, other, notice, he, ha, hs⟩ := step_of_mem_requests hc
  cases hs.kind_of_loadChoices hc
  exact ⟨event, he, ha⟩

theorem addressee_of_supplies (hs : h.Supplies n kind) :
    ∃ event, h.event? n = some event ∧ (h.board n).addressee event = some kind := by
  obtain ⟨choices, he⟩ := hs
  exact ⟨_, he, rfl⟩

theorem pendingCreate_iff (h : History) (n : Nat) (kind : Kind) :
    (h.page n kind).pendingCreate = true ↔ h.Awaits n kind := by
  induction n with
  | zero =>
    have hp : h.page 0 kind = .empty := PerKind.get_ofFn _ kind
    rw [hp]
    exact ⟨fun h => (by cases h), fun ⟨_, hm, _⟩ => by cases hm⟩
  | succ n ih =>
    rw [awaits_succ, ← ih]
    by_cases ha : ∃ event, h.event? n = some event ∧ (h.board n).addressee event = some kind
    · obtain ⟨event, he, ha⟩ := ha
      obtain ⟨notice, hs, -⟩ := Board.handle_step ha
      have hsupplies : ¬ h.Supplies n kind ↔
          ∀ choices, event ≠ .choicesLoaded kind choices := by
        simp only [Supplies, he, not_exists, Option.some.injEq, ne_eq]
      rw [hsupplies, Creates, requests_of_event he, page, board_succ_of_event he]
      exact hs.pendingCreate_iff
    · have hc : ¬ h.Creates n kind := fun hc => ha (addressee_of_creates hc)
      have hs : ¬ h.Supplies n kind := fun hs => ha (addressee_of_supplies hs)
      have hp : (h.page (n + 1) kind).pendingCreate = (h.page n kind).pendingCreate := by
        cases he : h.event? n with
        | none => rw [page_succ_of_no_event he]
        | some event =>
          rw [page, board_succ_of_event he]
          obtain hsame | ⟨-, hsame⟩ :=
            Board.handle_page_of_ne fun haddr => ha ⟨event, he, haddr⟩
          · rw [hsame]
            rfl
          · rw [hsame]
            rfl
      rw [hp]
      exact ⟨fun h => .inr ⟨h, hs⟩, fun h => (h.resolve_left hc).1⟩

def LastCreate (h : History) (m n : Nat) (kind : Kind) : Prop :=
  m < n ∧ h.Creates m kind ∧ ∀ k, m < k → k < n → ¬ h.Creates k kind

theorem LastCreate.le {k m : Nat} (hm : h.LastCreate m n kind) (hk : k < n)
    (hc : h.Creates k kind) : k ≤ m :=
  Nat.le_of_not_lt fun hgt => hm.2.2 k hgt hk hc

def Settled (h : History) (source : Nat → Nat) (m : Nat) (kind : Kind) : Prop :=
  ∀ k < m, h.Creates k kind → ∃ n < m, h.Supplies n kind ∧ source n = k

theorem exists_lastCreate (hc : ∃ m < n, h.Creates m kind) : ∃ m, h.LastCreate m n kind := by
  induction n with
  | zero => obtain ⟨m, hm, -⟩ := hc; cases hm
  | succ n ih =>
    by_cases hn : h.Creates n kind
    · exact ⟨n, by omega, hn, fun k hnk hkn => by omega⟩
    · obtain ⟨m, hm, hc⟩ := hc
      have hlt : m < n := Nat.lt_of_le_of_ne (Nat.le_of_lt_succ hm) fun he => hn (he ▸ hc)
      obtain ⟨l, hl, hlc, hno⟩ := ih ⟨m, hlt, hc⟩
      refine ⟨l, by omega, hlc, fun k hlk hkn => ?_⟩
      obtain rfl | hk := Nat.eq_or_lt_of_le (Nat.le_of_lt_succ hkn)
      · exact hn
      · exact hno k hlk hk

/-- If nothing was still to come when the last command was run, what arrives was loaded for it. -/
theorem Loads.source_eq {source : Nat → Nat} {m : Nat} (hl : h.Loads source)
    (hs : h.Supplies n kind) (hm : h.LastCreate m n kind) (hset : h.Settled source m kind) :
    source n = m := by
  obtain ⟨hlt, hc⟩ := hl.asked n kind hs
  obtain heq | hlt' := Nat.eq_or_lt_of_le (hm.le hlt hc)
  · exact heq
  · obtain ⟨k, hk, hsk, he⟩ := hset (source n) hlt' hc
    have hkn : k = n := hl.once k n kind hsk hs he
    have hmn : m < n := hm.1
    omega

/-- When lists that arrive open a form, the form is made of just these lists, and no other lists have
arrived since the last command for it. If nothing was still to come when that command was run, they
were loaded for this last command. -/
theorem form_offers_lists_of_last_create (h : History) {source : Nat → Nat}
    (hl : h.Loads source) {choices : Choices} {dialog : Dialog}
    (he : h.event? n = some (.choicesLoaded kind choices))
    (hnone : (h.page n kind).layers.dialog = none)
    (hopen : (h.page (n + 1) kind).layers.dialog = some dialog) :
    (∃ create, dialog = .create create ∧
      CreateForm.new? kind choices (h.board n).settings.infraImage = some create) ∧
      ∃ m, h.LastCreate m n kind ∧ (∀ k, m < k → k < n → ¬ h.Supplies k kind) ∧
        source n ≤ m ∧ (h.Settled source m kind → source n = m) := by
  have hs : h.Supplies n kind := ⟨choices, he⟩
  obtain ⟨notice, hstep, -⟩ := Board.handle_step
    (show (h.board n).addressee (.choicesLoaded kind choices) = some kind from rfl)
  rw [page, board_succ_of_event he] at hopen
  obtain ⟨_, _, _, hfinished, -⟩ | ⟨_, create, heq, hpending, hform, rfl⟩ :=
    (hstep.respected rfl).opened dialog hnone hopen
  · cases hfinished
  · cases heq
    refine ⟨⟨create, rfl, hform⟩, ?_⟩
    obtain ⟨l, hln, hlc, hno⟩ := (h.pendingCreate_iff n kind).mp hpending
    obtain ⟨m, hm⟩ := exists_lastCreate ⟨l, hln, hlc⟩
    obtain ⟨hlt, hc⟩ := hl.asked n kind hs
    exact ⟨m, hm, fun k hmk hkn => hno k (Nat.lt_of_le_of_lt (hm.le hln hlc) hmk) hkn,
      hm.le hlt hc, hl.source_eq hs hm⟩

def enter : Incident := .event (.key ⟨.enter, false, false, false⟩)

def withVolume : Choices := { volumes := [⟨"v1", "data"⟩] }

def createdOnce : History where
  settings := {}
  tables := .empty
  incidents := [enter, enter, .event (.choicesLoaded .containers withVolume)]

theorem supplies_createdOnce {n : Nat} {kind : Kind} (hs : createdOnce.Supplies n kind) :
    n = 2 ∧ kind = .containers := by
  obtain ⟨choices, he⟩ := hs
  obtain _ | _ | _ | n := n
  · cases he
  · cases he
  · cases he
    exact ⟨rfl, rfl⟩
  · cases he

theorem loads_createdOnce : createdOnce.Loads fun _ => 1 := by
  constructor
  · intro n kind hs
    obtain ⟨rfl, rfl⟩ := supplies_createdOnce hs
    exact ⟨by decide, by decide +kernel⟩
  · intro n n' kind hs hs' _
    rw [(supplies_createdOnce hs).1, (supplies_createdOnce hs').1]

theorem form_offers_volume :
    ∃ create, (createdOnce.page 3 .containers).layers.dialog = some (.create create) ∧
      CreateForm.new? .containers withVolume (createdOnce.board 2).settings.infraImage =
        some create ∧ createdOnce.LastCreate 1 2 .containers := by
  have hnone : (createdOnce.page 2 .containers).layers.dialog = none := by decide +kernel
  have hsome : (createdOnce.page 3 .containers).layers.dialog.isSome = true := by decide +kernel
  obtain ⟨dialog, hopen⟩ := Option.isSome_iff_exists.mp hsome
  obtain ⟨⟨create, rfl, hform⟩, m, hm, -, -, hlast⟩ :=
    form_offers_lists_of_last_create createdOnce loads_createdOnce rfl hnone hopen
  have hset : createdOnce.Settled (fun _ => 1) m .containers := by
    intro k hk hc
    have hmn : m < 2 := hm.1
    obtain rfl : k = 0 := by omega
    exact absurd hc (by decide +kernel)
  have hone : 1 = m := hlast hset
  exact ⟨create, hopen, hform, hone ▸ hm⟩

def createdTwice : History where
  settings := {}
  tables := .empty
  incidents := [enter, enter, enter, enter, .event (.choicesLoaded .containers withVolume),
    .event (.choicesLoaded .containers {})]

theorem supplies_createdTwice {n : Nat} {kind : Kind} (hs : createdTwice.Supplies n kind) :
    (n = 4 ∨ n = 5) ∧ kind = .containers := by
  obtain ⟨choices, he⟩ := hs
  obtain _ | _ | _ | _ | _ | _ | n := n
  · cases he
  · cases he
  · cases he
  · cases he
  · cases he
    exact ⟨.inl rfl, rfl⟩
  · cases he
    exact ⟨.inr rfl, rfl⟩
  · cases he

theorem loads_createdTwice : createdTwice.Loads fun n => if n = 4 then 1 else 3 := by
  constructor
  · intro n kind hs
    obtain ⟨rfl | rfl, rfl⟩ := supplies_createdTwice hs
    · exact ⟨by decide, by decide +kernel⟩
    · exact ⟨by decide, by decide +kernel⟩
  · intro n n' kind hs hs' he
    obtain ⟨rfl | rfl, -⟩ := supplies_createdTwice hs <;>
      obtain ⟨rfl | rfl, -⟩ := supplies_createdTwice hs' <;> simp at he ⊢

theorem form_can_offer_lists_of_earlier_create :
    ¬ ∀ (h : History) (source : Nat → Nat) (n m : Nat) (kind : Kind) (choices : Choices)
      (create : CreateForm), h.Loads source → h.event? n = some (.choicesLoaded kind choices) →
      (h.page n kind).layers.dialog = none →
      (h.page (n + 1) kind).layers.dialog = some (.create create) →
      h.LastCreate m n kind → source n = m := by
  intro hall
  have hnone : (createdTwice.page 4 .containers).layers.dialog = none := by decide +kernel
  have hopen : (createdTwice.page 5 .containers).layers.dialog =
      some (.create ⟨.containers, CreateForm.container withVolume⟩) := by decide +kernel
  have hlast : createdTwice.LastCreate 3 4 .containers :=
    ⟨by decide, by decide +kernel, fun k hk hk' => by omega⟩
  exact absurd (hall createdTwice _ 4 3 .containers withVolume _ loads_createdTwice rfl hnone hopen
    hlast) (by decide)

end History

end Deckhand
