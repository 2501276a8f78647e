import Deckhand.Proofs.Board.Creation
import Deckhand.Proofs.Board.Intact
import Deckhand.Proofs.Text.Lines

namespace Deckhand

def Ref.IsPlain (ref : Ref) : Prop := '\n' ∉ ref.id.toList ∧ '\n' ∉ ref.name.toList

def Confirmation.IsPlain (confirmation : Confirmation) : Prop :=
  ∀ target, confirmation.target = some target → target.IsPlain

def Operation.IsFor (kind : Kind) (id : String) (operation : Operation) : Prop :=
  ∃ verb, operation = .target kind verb id

namespace Confirm

/-- The two lines of a resource stand in the question, one after the other. -/
def Names (confirm : Confirm) (ref : Ref) : Prop :=
  ["ID: " ++ ref.id, "Name: " ++ ref.name] <:+: Text.splitOn '\n' confirm.text

instance (confirm : Confirm) (ref : Ref) : Decidable (confirm.Names ref) :=
  inferInstanceAs (Decidable (_ <:+: _))

def lines (kind : Kind) (confirmation : Confirmation) : List String :=
  question kind confirmation.destruction ::
    match confirmation.target with
    | some target => ["", "ID: " ++ target.id, "Name: " ++ target.name]
    | none => []

def Tells (kind : Kind) (confirm : Confirm) (operation : Operation) : Prop :=
  ∀ id, (∃ name, confirm.Names ⟨id, name⟩) ↔ operation.IsFor kind id

variable {kind : Kind} {ref : Ref}

theorem feed_notMem_question (kind : Kind) (destruction : Destruction) :
    '\n' ∉ (question kind destruction).toList := by
  have hword : '\n' ∉ kind.title.toList ∧ '\n' ∉ kind.noun.toList := by
    cases kind <;> simp [Kind.title, Kind.noun]
  unfold question
  cases destruction with
  | prune => simp [hword.1]
  | remove | kill => simp [hword.2]

theorem splitOn_text {confirmation : Confirmation} (hp : confirmation.IsPlain) :
    Text.splitOn '\n' (ofConfirmation kind confirmation).text = lines kind confirmation := by
  have htext : (ofConfirmation kind confirmation).text =
      Text.unlines (lines kind confirmation) := by
    apply String.toList_inj.mp
    unfold ofConfirmation lines
    cases confirmation.target with
    | none => simp [new, Text.unlines]
    | some target => simp [new, Text.unlines]
  rw [htext]
  refine Text.splitOn_unlines (List.cons_ne_nil _ _) ?_
  unfold lines
  cases ht : confirmation.target with
  | none => simp [feed_notMem_question]
  | some target => simp [feed_notMem_question, (hp target ht).1, (hp target ht).2]

theorem names_ofConfirmation_iff {confirmation : Confirmation} (hp : confirmation.IsPlain) :
    (ofConfirmation kind confirmation).Names ref ↔ confirmation.target = some ref := by
  rw [Names, splitOn_text hp, lines]
  cases confirmation.target with
  | none => simp [List.infix_cons_iff]
  | some target =>
    rw [Option.some.injEq, @eq_comm _ target]
    obtain ⟨id, name⟩ := ref
    obtain ⟨id', name'⟩ := target
    simp [List.infix_cons_iff]

theorem names_iff {confirm : Confirm} {confirmation : Confirmation}
    (hu : confirm.unfocused = .ofConfirmation kind confirmation) (hp : confirmation.IsPlain)
    (ref : Ref) : confirm.Names ref ↔ confirmation.target = some ref := by
  rw [← names_ofConfirmation_iff hp, ← hu]
  rfl

end Confirm

theorem Confirmation.Means.isFor_iff {kind : Kind} {confirmation : Confirmation}
    {operation : Operation} (hm : confirmation.Means kind operation) (id : String) :
    operation.IsFor kind id ↔
      confirmation.destruction ≠ .prune ∧ ∃ name, confirmation.target = some ⟨id, name⟩ := by
  cases hm with
  | prune => simp [Operation.IsFor]
  | @remove target | @kill target =>
    obtain ⟨id', name⟩ := target
    simp [Operation.IsFor]

/-- Only a prune picked with a resource selected is asked about by a question that misleads. -/
theorem Confirm.tells_iff {kind : Kind} {confirm : Confirm} {confirmation : Confirmation}
    {operation : Operation} (hu : confirm.unfocused = .ofConfirmation kind confirmation)
    (hp : confirmation.IsPlain) (hm : confirmation.Means kind operation) :
    confirm.Tells kind operation ↔
      (confirmation.destruction = .prune → confirmation.target = none) := by
  simp only [Tells, names_iff hu hp, hm.isFor_iff]
  constructor
  · intro htells hprune
    refine Option.eq_none_iff_forall_ne_some.mpr fun target ht => ?_
    exact ((htells target.id).mp ⟨target.name, ht⟩).1 hprune
  · intro hnone id
    refine ⟨fun hnamed => ⟨fun hprune => ?_, hnamed⟩, And.right⟩
    obtain ⟨name, ht⟩ := hnamed
    cases ht.symm.trans (hnone hprune)

namespace Board

variable {board : Board} {kind : Kind} {confirm : Confirm} {confirmation : Confirmation}
  {operation : Operation}

theorem requests_acceptConfirmation (hs : (board.page kind).Sound kind)
    (hd : (board.page kind).layers.dialog = some (.confirm confirm))
    (hc : (board.page kind).confirmation = some confirmation)
    (ho : confirmedOperation? kind confirmation = some operation) :
    (board.acceptConfirmation kind).requests = [.run kind ⟨board.nextId⟩ operation] := by
  have hidle : (board.page kind).inFlight = none := by
    rw [hs.inFlight, hd]
    rfl
  simp only [acceptConfirmation, hc, ho]
  rw [begin_of_idle]
  · rfl
  · rw [page_modifyPage_self]
    exact hidle

end Board

namespace History

/-- Behind every question is a command that was picked on its page, and to accept it runs the one
operation that the command stands for. As long as no line ends within the id or the name of what was
selected, the question names what this operation is for, but for a prune that was picked with a
resource selected, which the question names all the same. -/
theorem question_names_what_is_accepted (h : History) {n : Nat} {kind : Kind} {confirm : Confirm}
    (hd : (h.page n kind).layers.dialog = some (.confirm confirm)) :
    ∃ pick confirmation operation,
      h.Pending pick n kind confirmation ∧ confirmation.Means kind operation ∧
      confirm.unfocused = .ofConfirmation kind confirmation ∧
      ((h.board n).acceptConfirmation kind).requests =
        [.run kind ⟨(h.board n).nextId⟩ operation] ∧
      (confirmation.IsPlain →
        (∀ ref, confirm.Names ref ↔ confirmation.target = some ref) ∧
        (confirm.Tells kind operation ↔
          (confirmation.destruction = .prune → confirmation.target = none))) := by
  have hi := (intact h n).page kind
  obtain ⟨confirmation, hc⟩ := Option.isSome_iff_exists.mp (hi.asks.mp ⟨confirm, hd⟩)
  obtain ⟨pick, hpending⟩ := exists_pending hc
  obtain ⟨operation, ho⟩ := hi.exists_confirmedOperation hc
  obtain ⟨-, shown, hshown, hu⟩ := (h.sound n kind).asks hc
  cases hshown.symm.trans hd
  have hm := Board.means_of_confirmedOperation? ho
  exact ⟨pick, confirmation, operation, hpending, hm, hu,
    Board.requests_acceptConfirmation (h.sound n kind) hd hc ho,
    fun hp => ⟨Confirm.names_iff hu hp, Confirm.tells_iff hu hp hm⟩⟩

theorem removal_is_told : ∃ confirm operation,
    (removal.page 5 .networks).layers.dialog = some (.confirm confirm) ∧
      ((removal.board 5).acceptConfirmation .networks).requests =
        [.run .networks ⟨1⟩ operation] ∧ confirm.Tells .networks operation := by
  have hd : (removal.page 5 .networks).layers.dialog =
      some (.confirm (.ofConfirmation .networks ⟨.remove, some ⟨"9a", "backbone"⟩⟩)) := by
    decide +kernel
  obtain ⟨pick, confirmation, operation, hp, -, -, hr, htells⟩ :=
    question_names_what_is_accepted removal hd
  have hc : some confirmation = some ⟨.remove, some ⟨"9a", "backbone"⟩⟩ :=
    (hp.asked 5 hp.order (Nat.le_refl 5)).1.symm.trans (by decide +kernel)
  cases hc
  have hplain : Confirmation.IsPlain ⟨.remove, some ⟨"9a", "backbone"⟩⟩ := by
    intro target ht
    cases ht
    simp [Ref.IsPlain]
  exact ⟨_, operation, hd, hr, (htells hplain).2.mpr nofun⟩

def pruneAtRow : History where
  settings := {}
  tables := .empty
  incidents := [
    .rows .networks [⟨"9a", "backbone", []⟩],
    .event (.key ⟨.char '4', false, false, false⟩),
    .event (.key ⟨.enter, false, false, false⟩),
    .event (.key ⟨.down, false, false, false⟩),
    .event (.key ⟨.down, false, false, false⟩),
    .event (.key ⟨.enter, false, false, false⟩)]

theorem question_can_name_what_is_not_meant :
    ¬ ∀ (h : History) (n : Nat) (kind : Kind) (confirm : Confirm) (id : OperationId)
        (operation : Operation),
      (h.page n kind).layers.dialog = some (.confirm confirm) →
      ((h.board n).acceptConfirmation kind).requests = [.run kind id operation] →
      confirm.Tells kind operation := by
  intro hall
  have htells := hall pruneAtRow 6 .networks
    (.ofConfirmation .networks ⟨.prune, some ⟨"9a", "backbone"⟩⟩) ⟨1⟩ (.prune .networks)
    (by decide +kernel) (by decide +kernel) "9a"
  obtain ⟨verb, hverb⟩ := htells.mp ⟨"backbone", by decide +kernel⟩
  cases hverb

end History

end Deckhand
