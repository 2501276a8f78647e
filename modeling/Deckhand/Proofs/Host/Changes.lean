import Deckhand.Host.Podman.Cli
import Deckhand.Proofs.Board.WellFormed
import Deckhand.Session.Host

namespace Deckhand

namespace Verb

def changesResources : Verb → Bool
  | start | stop | pause | unpause | restart | kill | remove => true
  | inspect | diff | logs | port | top | history => false

theorem label_eq_remove_iff {verb : Verb} : verb.label = "remove" ↔ verb = .remove := by
  cases verb <;> decide +kernel

end Verb

theorem Podman.targetOutcome_of_changes {kind : Kind} {verb : Verb} {run : Run}
    (h : verb.changesResources = true) : targetOutcome kind verb run =
      match kind with
      | .pods => run.batch
      | .images => run.successful.map (.lines <| Text.lines ·)
      | .containers | .networks | .volumes => run.successful.map fun _ => .done := by
  cases verb with
  | inspect | diff | logs | port | top | history => cases h
  | _ => rfl

namespace Operation

/-- The resources are not as before; a command that is executed in a container is its own affair. -/
def changesResources : Operation → Bool
  | target _ verb _ => verb.changesResources
  | prune _ | rename _ _ | tag _ _ | untag _ _ | pull _ | create _ => true
  | exec _ _ | search _ | stats _ _ => false

def IsOffered : Operation → Prop
  | target kind verb _ => kind.OffersVerb verb
  | _ => True

/-- What one of the hosts answers, in whatever state it is and whatever its program leaves behind. -/
inductive Answer (operation : Operation) : Except Failure Outcome → Prop
  | podman (cli : Podman.Cli) (start : List String → Podman.Run) :
      Answer operation (cli.execute start operation)
  | memory (host : MemoryHost) : Answer operation (host.execute operation).1

def Tells (operation : Operation) (result : Except Failure Outcome) : Prop :=
  ∀ outcome, result = .ok outcome →
    Board.changesTables operation.label outcome = operation.changesResources

variable {operation : Operation} {result : Except Failure Outcome} {kind : Kind} {verb : Verb}

theorem Tells.error {failure : Failure} : operation.Tells (.error failure) := nofun

theorem Tells.ok {outcome : Outcome}
    (h : Board.changesTables operation.label outcome = operation.changesResources) :
    operation.Tells (.ok outcome) := by
  intro shown hs
  cases hs
  exact h

theorem Tells.map {text : Except Failure String} {f : String → Outcome}
    (h : ∀ text, Board.changesTables operation.label (f text) = operation.changesResources) :
    operation.Tells (text.map f) := by
  cases text with
  | error failure => exact .error
  | ok text => exact .ok (h text)

theorem Tells.batch {run : Podman.Run} (h : operation.changesResources = true) :
    operation.Tells run.batch := by
  unfold Podman.Run.batch
  split
  · exact .ok h.symm
  · split
    · exact .error
    · exact .ok h.symm

theorem eq_remove_of_offersVerb (h : Kind.images.OffersVerb verb)
    (hc : verb.changesResources = true) : verb = .remove := by
  obtain h | ⟨hv, -⟩ | ⟨-, h⟩ := h
  · cases verb with
    | remove => rfl
    | start | stop | pause | unpause | restart | kill => exact absurd h (by decide +kernel)
    | inspect | diff | logs | port | top | history => cases hc
  · exact hv
  · exact absurd h (by decide +kernel)

theorem changesTables_lines (lines : List String) (kind : Kind) (verb : Verb) (id : String)
    (hr : verb.changesResources = true → verb = .remove) :
    Board.changesTables (target kind verb id).label (.lines lines) = verb.changesResources := by
  have hlabel : Board.changesTables (target kind verb id).label (.lines lines) =
      (verb.label == "remove") := rfl
  rw [hlabel, Bool.eq_iff_iff, beq_iff_eq, Verb.label_eq_remove_iff]
  constructor
  · rintro rfl
    rfl
  · exact hr

theorem Tells.podman_target (h : kind.OffersVerb verb) (id : String) (run : Podman.Run) :
    (target kind verb id).Tells (Podman.targetOutcome kind verb run) := by
  cases hc : verb.changesResources with
  -- Among the outcomes only lines leave it to the verb whether the tables are listed anew.
  | false =>
    have hlines := fun lines =>
      changesTables_lines lines kind verb id fun h => absurd (hc.symm.trans h) Bool.false_ne_true
    cases verb with
    | inspect | top | history => exact .map fun _ => rfl
    | diff | logs | port => exact .map fun _ => hlines _
    | _ => cases hc
  | true =>
    rw [Podman.targetOutcome_of_changes hc]
    cases kind with
    | pods => exact .batch hc
    | images => exact .map fun _ => changesTables_lines _ _ _ _ (eq_remove_of_offersVerb h)
    | containers | networks | volumes => exact .map fun _ => hc.symm

theorem Tells.podman (h : operation.IsOffered) (run : Podman.Run) :
    operation.Tells (Podman.outcome operation run) := by
  cases operation with
  | target kind verb id => exact .podman_target h id run
  | prune kind =>
    have hbatch : (prune kind).Tells run.batch := .batch rfl
    exact hbatch
  | rename _ _ | tag _ _ | untag _ _ | pull _ | exec _ _ | search _ | create _ | stats _ _ =>
    exact .map fun _ => rfl

theorem Tells.memory_target (batch : List String) (kind : Kind) (row : Row) (verb : Verb)
    (id : String) : (target kind verb id).Tells
      (.ok (MemoryHost.targetOutcome batch kind row verb)) := by
  have hlines := fun lines hr => changesTables_lines lines kind verb id hr
  cases verb with
  | inspect | top | history => exact .ok rfl
  | diff | logs | port => exact .ok (hlines _ nofun)
  | remove =>
    cases kind with
    | images => exact .ok (hlines _ fun _ => rfl)
    | pods | containers | networks | volumes => exact .ok rfl
  | start | stop | pause | unpause | restart | kill =>
    unfold MemoryHost.targetOutcome
    dsimp only
    split
    · exact .ok rfl
    · exact .ok rfl

theorem Tells.memory (operation : Operation) (host : MemoryHost) :
    operation.Tells (host.execute operation).1 := by
  unfold MemoryHost.execute
  dsimp only
  split
  · exact .error
  · cases operation with
    | target kind verb id =>
      simp only [MemoryHost.perform, MemoryHost.target]
      split
      · exact .error
      · exact .memory_target _ kind _ verb id
    | rename id name =>
      simp only [MemoryHost.perform, MemoryHost.renameContainer]
      split
      · exact .ok rfl
      · exact .error
    | prune _ | tag _ _ | untag _ _ | pull _ | exec _ _ | search _ | create _ | stats _ _ =>
      exact .ok rfl

theorem Answer.tells (ha : operation.Answer result) (h : operation.IsOffered) :
    operation.Tells result := by
  cases ha with
  | podman cli start =>
    unfold Podman.Cli.execute
    cases cli.call start (Podman.arguments operation) with
    | error failure => exact .error
    | ok run => exact .podman h run
  | memory host => exact .memory operation host

end Operation

theorem Outcome.of_settle {result : Except Failure Outcome} {outcome : Outcome}
    (h : result.bind Outcome.settle = .ok outcome) : result = .ok outcome := by
  cases result with
  | error failure => cases h
  | ok given =>
    have hs : given.settle = .ok outcome := h
    unfold settle at hs
    split at hs
    · cases hs
    · exact hs

namespace Board

variable {board : Board} {kind : Kind} {id : OperationId} {operation : Operation}
variable {result : Except Failure Outcome}

theorem requests_finished : (board.handle (finishedEvent kind id operation result)).requests =
    match result.bind Outcome.settle with
    | .error _ => []
    | .ok outcome => if changesTables operation.label outcome then [.refreshNow] else [] := by
  unfold finishedEvent
  cases result.bind Outcome.settle <;> rfl

theorem refreshes_iff (ht : operation.Tells result) :
    .refreshNow ∈ (board.handle (finishedEvent kind id operation result)).requests ↔
      (∃ outcome, result.bind Outcome.settle = .ok outcome) ∧
        operation.changesResources = true := by
  rw [requests_finished]
  cases hs : result.bind Outcome.settle with
  | error failure => exact ⟨nofun, fun ⟨⟨_, h⟩, _⟩ => by cases h⟩
  | ok outcome =>
    dsimp only
    rw [ht outcome (Outcome.of_settle hs)]
    cases operation.changesResources <;> simp

theorem requests_failed {failure : Failure} (h : result = .error failure) :
    (board.handle (finishedEvent kind id operation result)).requests = [] := by
  rw [requests_finished, h]
  rfl

theorem requests_partly_failed {error : String} {errors : List String}
    (h : result = .ok (.batch (error :: errors))) :
    (board.handle (finishedEvent kind id operation result)).requests = [] := by
  rw [requests_finished, h]
  rfl

end Board

namespace History

variable {h : History} {n : Nat} {kind : Kind}

theorem offers_of_confirmation {confirmation : Confirmation}
    (hc : (h.page n kind).confirmation = some confirmation) :
    kind.Offers (.confirm confirmation.destruction) := by
  obtain ⟨pick, hp⟩ := exists_pending hc
  obtain ⟨picker, command, hf, hs, ha⟩ := hp.picked.command
  have hkind : picker.kind = kind := (h.sound pick kind).picker picker hf.2
  rw [← hkind]
  exact ⟨command, List.mem_of_getElem? hs, ha⟩

theorem isOffered_of_run {id : OperationId} {operation : Operation}
    (hr : .run kind id operation ∈ h.requests n) : operation.IsOffered := by
  obtain ⟨event, shown, notice, -, -, hs⟩ := step_of_mem_requests hr
  obtain ⟨key, rest, -, hsub, -, -, -, -⟩ := hs.submits hr
  have hshown : ((h.board n).context shown).kind = shown := rfl
  rw [hshown] at hsub
  cases hsub with
  | command hp ha _ => exact .inl (ha ▸ hp.offers)
  | accept _ _ _ hc ho =>
    have hoffers := offers_of_confirmation hc
    cases Board.means_of_confirmedOperation? ho with
    | prune => trivial
    | remove => exact .inr (.inl ⟨rfl, hoffers⟩)
    | kill => exact .inr (.inr ⟨rfl, hoffers⟩)
  | @text prompt _ _ _ =>
    cases hp : prompt.purpose <;> trivial
  | form _ _ _ | hit _ _ _ _ => trivial

/-- When an operation that was run in any history comes to an end, on whatever board, the tables are
listed anew exactly if it has succeeded for all its targets and it is one that changes something. If
it has failed, be it for one target only, nothing at all is asked for. -/
theorem refreshed_after_changes {id : OperationId} {operation : Operation}
    (hr : .run kind id operation ∈ h.requests n) {result : Except Failure Outcome}
    (ha : operation.Answer result) (board : Board) :
    (.refreshNow ∈ (board.handle (finishedEvent kind id operation result)).requests ↔
      (∃ outcome, result.bind Outcome.settle = .ok outcome) ∧
        operation.changesResources = true) ∧
    (∀ failure, result = .error failure →
      (board.handle (finishedEvent kind id operation result)).requests = []) ∧
    ∀ error errors, result = .ok (.batch (error :: errors)) →
      (board.handle (finishedEvent kind id operation result)).requests = [] :=
  ⟨Board.refreshes_iff (ha.tells (isOffered_of_run hr)), fun _ => Board.requests_failed,
    fun _ _ => Board.requests_partly_failed⟩

def imageRemoval : History where
  settings := {}
  tables := .empty
  incidents := .rows .images [⟨"a6bd", "nginx:latest", []⟩] ::
    [.char '3', .enter, .up, .up, .up, .up, .enter, .tab, .enter].map
      fun code => .event (.key { code })

def removedImage : Except Failure Outcome :=
  Podman.Cli.execute ⟨none⟩ (fun _ => ⟨.exited 0, "Deleted: a6bd".toUTF8, .empty⟩)
    (.target .images .remove "a6bd")

theorem removal_of_image_refreshes :
    .run .images ⟨1⟩ (.target .images .remove "a6bd") ∈ imageRemoval.requests 9 ∧
      .refreshNow ∈ ((imageRemoval.board 10).handle
        (finishedEvent .images ⟨1⟩ (.target .images .remove "a6bd") removedImage)).requests := by
  have hr : .run .images ⟨1⟩ (.target .images .remove "a6bd") ∈ imageRemoval.requests 9 := by
    decide +kernel
  exact ⟨hr, (refreshed_after_changes hr (.podman _ _) _).1.mpr ⟨⟨_, rfl⟩, rfl⟩⟩

end History

end Deckhand
