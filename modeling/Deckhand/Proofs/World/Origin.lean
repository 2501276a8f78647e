import Deckhand.Proofs.Board.WellFormed
import Deckhand.Proofs.World.History
import Deckhand.Proofs.World.Results

namespace Deckhand.History

/-- Up to then, a row with that id has been in the table of the kind. -/
def Listed (h : History) (n : Nat) (kind : Kind) (id : String) : Prop :=
  ∃ m ≤ n, ∃ row ∈ (h.board m).rows kind, row.id = id

variable {h : History} {n : Nat} {kind : Kind}

theorem Listed.succ {id : String} (hl : h.Listed n kind id) : h.Listed (n + 1) kind id := by
  obtain ⟨m, hm, hrow⟩ := hl
  exact ⟨m, Nat.le_succ_of_le hm, hrow⟩

theorem listed_rows (h : History) (n : Nat) (kind : Kind) :
    ∀ row ∈ (h.board n).rows kind, h.Listed n kind row.id :=
  fun row hr => ⟨n, Nat.le_refl n, row, hr, rfl⟩

def Grounded (h : History) (n : Nat) : Prop :=
  ∀ kind, (h.page n kind).Grounded kind (h.Listed n kind)

theorem Grounded.wellFormed (hg : h.Grounded n) {id : OperationId} {operation : Operation}
    (hr : .run kind id operation ∈ h.requests n) :
    operation.WellFormed kind (h.Listed n kind) := by
  obtain ⟨event, addressee, notice, -, -, hs⟩ := step_of_mem_requests hr
  obtain ⟨key, rest, -, hsub, -, hkind, -⟩ := hs.submits hr
  have haddressee : ((h.board n).context addressee).kind = addressee := rfl
  rw [hkind, haddressee]
  exact hsub.wellFormed (hg addressee)

theorem kind_of_search_ended (he : h.EndsWhatRan) (hg : ∀ m < n, h.Grounded m) {id : OperationId}
    {label : Label} {result : Except Failure Outcome}
    (hf : h.event? n = some (.finished kind id label result)) (hv : label.verb = "search") :
    kind = .images := by
  obtain ⟨m, hm, operation, hr, rfl⟩ := he n kind id label result hf
  have hkind := ((hg m hm).wellFormed hr).kind_eq
  obtain ⟨term, rfl⟩ := operation.verb_eq_search_iff.mp hv
  exact hkind.symm

theorem grounded_zero (h : History) : h.Grounded 0 := by
  intro kind
  cases kind <;> exact Page.grounded_empty _ _

theorem Grounded.succ (he : h.EndsWhatRan) (hg : ∀ m ≤ n, h.Grounded m) : h.Grounded (n + 1) := by
  intro kind
  have hpage := (hg n (Nat.le_refl n) kind).mono fun _ hl => Listed.succ hl
  have hrows : ∀ row ∈ (h.board n).rows kind, h.Listed (n + 1) kind row.id :=
    fun row hr => (listed_rows h n kind row hr).succ
  obtain ⟨event, notice, hevent, -, hs⟩ | hsame | ⟨-, hrec⟩ := h.page_succ n kind
  · refine hs.grounded hpage hrows fun id label result hf hv => ?_
    exact kind_of_search_ended he (fun m hm => hg m (Nat.le_of_lt hm)) (hf ▸ hevent) hv
  · rw [hsame]
    exact hpage
  · rw [hrec]
    exact hpage.reconcile hrows

theorem grounded (he : h.EndsWhatRan) (n : Nat) : h.Grounded n := by
  -- The end of a search shows what can be pulled, so that what holds up to a moment is needed for
  -- the next one.
  induction n using Nat.strongRecOn with
  | _ n ih =>
    cases n with
    | zero => exact grounded_zero h
    | succ n => exact Grounded.succ he fun m hm => ih m (Nat.lt_succ_of_le hm)

/-- Every operation that is run is of the kind of its page, offered there, about a resource that was
listed before, and made of texts in order. A prompt about a resource never lacks it. -/
theorem operations_are_well_formed (he : h.EndsWhatRan) (n : Nat) (kind : Kind) :
    (∀ id operation, .run kind id operation ∈ h.requests n →
      operation.WellFormed kind (h.Listed n kind)) ∧
    ∀ prompt, (h.page n kind).layers.dialog = some (.input prompt) → prompt.purpose ≠ .search →
      ∃ target, prompt.target = some target ∧ h.Listed n kind target.id := by
  have hg := grounded he n
  refine ⟨fun id operation hr => hg.wellFormed hr, fun prompt hd hp => ?_⟩
  exact ((hg kind).dialog _ hd).2.resolve_left hp

def pressed (code : KeyCode) : Incident := .event (.key { code })

def pulling : History where
  settings := {}
  tables := .empty
  incidents := [
    pressed (.char '3'), pressed .enter, pressed .up, pressed .up, pressed .up, pressed .enter,
    pressed (.char 'x'), pressed .enter,
    .event (.finished .images ⟨1⟩ ⟨.images, "search", some "x"⟩
      (.ok (.table ⟨[], [["docker.io", " docker.io/x "]]⟩))),
    pressed .enter]

theorem found_image_is_pulled : pulling.EndsWhatRan ∧
    .run .images ⟨2⟩ (.pull "docker.io/x") ∈ pulling.requests 9 ∧
    (Operation.pull "docker.io/x").WellFormed .images (pulling.Listed 9 .images) := by
  have he : pulling.EndsWhatRan := by
    intro n kind id label result hf
    match n, hf with
    | 0, hf | 1, hf | 2, hf | 3, hf | 4, hf | 5, hf | 6, hf | 7, hf | 9, hf => cases hf
    | 8, hf =>
      cases hf
      exact ⟨7, by decide, .search "x", by decide +kernel, rfl⟩
    | n + 10, hf => cases hf
  have hr : .run .images ⟨2⟩ (.pull "docker.io/x") ∈ pulling.requests 9 := by decide +kernel
  exact ⟨he, hr, (operations_are_well_formed he 9 .images).1 ⟨2⟩ _ hr⟩

end Deckhand.History
