import Mathlib.Data.List.Basic
import Mathlib.Data.List.Chain
import Mathlib.Data.List.Induction
import Deckhand.Proofs.Refresh.Requests

namespace Deckhand

namespace Event

def reportsOn (kind : Kind) : Event → Bool
  | listRefreshed other | listFailed other _ => other == kind
  | _ => false

def isListFailed : Event → Bool
  | listFailed _ _ => true
  | _ => false

theorem eq_listRefreshed {kind : Kind} {event : Event} (hr : event.reportsOn kind = true)
    (hf : event.isListFailed = false) : event = .listRefreshed kind := by
  cases event with
  | listRefreshed other => rw [beq_iff_eq.mp hr]
  | listFailed other message => cases hf
  | _ => cases hr

end Event

namespace Refresh

abbrev Answers := PerKind (Except Failure (List Row))

def failedLast (rounds : List Answers) (kind : Kind) : Bool :=
  rounds.getLast?.any fun answers => (answers.get kind).toOption.isNone

/-- What is to be told of a list, given the rounds before it. -/
def news? (rounds : List Answers) (kind : Kind) : Except Failure (List Row) → Option Event
  | .ok _ => some (.listRefreshed kind)
  | .error failure =>
    if failedLast rounds kind then none else some (.listFailed kind failure.message)

def lastRows? (rounds : List Answers) (kind : Kind) : Option (List Row) :=
  (rounds.filterMap fun answers => (answers.get kind).toOption).getLast?

theorem lastRows?_concat (rounds : List Answers) (answers : Answers) (kind : Kind) :
    lastRows? (rounds ++ [answers]) kind =
      (answers.get kind).toOption.or (lastRows? rounds kind) := by
  rw [lastRows?, List.filterMap_append, List.getLast?_append, List.filterMap_cons,
    List.filterMap_nil]
  cases (answers.get kind).toOption <;> rfl

namespace Refresher

variable (refresher : Refresher) (rounds : List Answers) (answers : Answers) (kind : Kind)

def after (refresher : Refresher) (rounds : List Answers) : Refresher :=
  rounds.foldl (fun refresher answers => (refresher.round answers).refresher) refresher

theorem after_concat : refresher.after (rounds ++ [answers]) =
    ((refresher.after rounds).round answers).refresher := List.foldl_concat ..

theorem events_cons : (refresher.rounds (answers :: rounds)).1 =
    (refresher.round answers).events ++
      ((refresher.round answers).refresher.rounds rounds).1 := rfl

theorem rounds_concat : refresher.rounds (rounds ++ [answers]) =
    ((refresher.rounds rounds).1 ++ ((refresher.after rounds).round answers).events,
      (refresher.rounds rounds).2 ++ [(refresher.after rounds).tables]) := by
  induction rounds generalizing refresher with
  | nil => simp [Refresher.rounds, after]
  | cons first rounds ih =>
    have hrest := ih (refresher.round first).refresher
    simp only [List.cons_append, Refresher.rounds, hrest, List.append_assoc]
    rfl

theorem failing_after (tables : Tables) :
    ((new tables).after rounds).failing.get kind = failedLast rounds kind := by
  induction rounds using List.reverseRecOn with
  | nil => exact PerKind.get_ofFn _ kind
  | append_singleton rounds answers _ =>
    rw [after_concat, failedLast, List.getLast?_concat]
    exact PerKind.get_ofFn _ kind

theorem report?_after (tables : Tables) (answer : Except Failure (List Row)) :
    ((new tables).after rounds).report? kind answer = news? rounds kind answer := by
  cases answer with
  | ok rows => rfl
  | error failure => simp only [report?, news?, failing_after]

theorem tables_after : (refresher.after rounds).tables.get kind =
    (lastRows? rounds kind).getD (refresher.tables.get kind) := by
  induction rounds using List.reverseRecOn with
  | nil => rfl
  | append_singleton rounds answers ih =>
    have hstored : (refresher.after (rounds ++ [answers])).tables.get kind =
        match answers.get kind with
        | .ok rows => rows
        | .error _ => (refresher.after rounds).tables.get kind := by
      rw [after_concat]
      exact PerKind.get_ofFn _ kind
    rw [hstored, lastRows?_concat, ih]
    cases answers.get kind <;> rfl

theorem reportsOn_of_report? {other : Kind} {answer : Except Failure (List Row)} {event : Event}
    (h : refresher.report? other answer = some event) : event.reportsOn kind = (other == kind) := by
  cases answer with
  | ok rows =>
    cases h
    rfl
  | error failure =>
    simp only [report?] at h
    split at h
    · cases h
    · cases h
      rfl

theorem reportsOn_round : (refresher.round answers).events.filter (·.reportsOn kind) =
    (refresher.report? kind (answers.get kind)).toList := by
  have hkind (other : Kind) :
      (refresher.report? other (answers.get other)).filter (·.reportsOn kind) =
        if other = kind then refresher.report? kind (answers.get kind) else none := by
    cases hr : refresher.report? other (answers.get other) with
    | none =>
      split
      · rename_i ho
        rw [← ho, hr]
        rfl
      · rfl
    | some event =>
      simp only [Option.filter_some, refresher.reportsOn_of_report? kind hr, beq_iff_eq]
      split
      · rename_i ho
        rw [← ho, hr]
      · rfl
  have hfilter : (refresher.round answers).events.filter (·.reportsOn kind) =
      Kind.all.filterMap fun other =>
        if other = kind then refresher.report? kind (answers.get kind) else none := by
    simp only [round, List.filter_filterMap, hkind]
  rw [hfilter]
  cases refresher.report? kind (answers.get kind) <;> cases kind <;> rfl

theorem failures_apart :
    ((refresher.rounds rounds).1.filter (·.reportsOn kind)).IsChain
        (fun event next => !event.isListFailed || !next.isListFailed) ∧
      (refresher.failing.get kind = true →
        ∀ event ∈ ((refresher.rounds rounds).1.filter (·.reportsOn kind)).head?,
          event.isListFailed = false) := by
  -- From the front, since the round before decides what the next one reports of a failure.
  induction rounds generalizing refresher with
  | nil => exact ⟨.nil, fun _ event he => by cases he⟩
  | cons answers rounds ih =>
    obtain ⟨hchain, hhead⟩ := ih (refresher.round answers).refresher
    have hfailing : (refresher.round answers).refresher.failing.get kind =
        (answers.get kind).toOption.isNone := PerKind.get_ofFn _ kind
    rw [hfailing] at hhead
    rw [events_cons, List.filter_append, reportsOn_round]
    cases ha : answers.get kind with
    | ok rows =>
      refine ⟨List.isChain_cons.mpr ⟨fun event _ => rfl, hchain⟩, fun _ event he => ?_⟩
      cases he
      rfl
    | error failure =>
      have hlater := hhead (by rw [ha]; rfl)
      by_cases hf : refresher.failing.get kind = true
      · simp only [report?, if_pos hf, Option.toList_none, List.nil_append]
        exact ⟨hchain, fun _ => hlater⟩
      · simp only [report?, if_neg hf, Option.toList_some, List.singleton_append]
        refine ⟨List.isChain_cons.mpr ⟨fun event he => ?_, hchain⟩, fun h => absurd h hf⟩
        rw [hlater event he]
        rfl

theorem success_between {before between after : List Event} {first second : String}
    (h : (refresher.rounds rounds).1 =
      before ++ .listFailed kind first :: between ++ .listFailed kind second :: after) :
    .listRefreshed kind ∈ between := by
  have hchain := (failures_apart refresher rounds kind).1
  rw [h] at hchain
  have hself (message : String) : (Event.listFailed kind message).reportsOn kind = true :=
    beq_self_eq_true kind
  simp only [List.filter_append, List.filter_cons, hself, if_true, List.append_assoc,
    List.cons_append] at hchain
  have hbetween := (List.isChain_append.mp hchain).2.1
  cases hb : between.filter (·.reportsOn kind) with
  | nil =>
    rw [hb] at hbetween
    cases (List.isChain_cons.mp hbetween).1 _ rfl
  | cons event rest =>
    rw [hb] at hbetween
    have hapart := (List.isChain_cons.mp hbetween).1 event rfl
    obtain ⟨hmem, hreports⟩ := List.mem_filter.mp (hb ▸ List.mem_cons_self : event ∈ _)
    rw [← Event.eq_listRefreshed hreports (by simpa [Event.isListFailed] using hapart)]
    exact hmem

end Refresher

namespace Service

variable {service service' : Service} {act : Act} {acts : List Act}

def round? (service : Service) (act : Act) : Option Answers :=
  match act, service.phase with
  | .finish, .listing arrived => arrived.all?
  | _, _ => none

def finished (service : Service) : List Act → List Answers
  | [] => []
  | act :: acts =>
    (service.round? act).toList ++ (service.step act).elim [] (·.finished acts)

theorem step_round (h : service.step act = some service') :
    service'.refresher = service.refresher.after (service.round? act).toList ∧
      service'.events =
        service.events ++ (service.refresher.rounds (service.round? act).toList).1 := by
  cases act with
  | finish =>
    obtain ⟨arrived, answers, hp, ha, hrefresher, hevents⟩ := step_finish h
    have hround : service.round? .finish = some answers := by
      unfold round?
      rw [hp]
      exact ha
    rw [hround, hrefresher, hevents]
    exact ⟨rfl, congrArg _ (List.append_nil _).symm⟩
  | notify sender accepted =>
    simp only [step] at h
    split at h
    · split at h
      · cases h
        exact ⟨rfl, (List.append_nil _).symm⟩
      · cases h
    · cases h
  | drop sender =>
    cases h
    exact ⟨rfl, (List.append_nil _).symm⟩
  | clone sender | tick | take | stop =>
    simp only [step] at h
    split at h
    · cases h
      exact ⟨rfl, (List.append_nil _).symm⟩
    · cases h
  | list kind answer =>
    simp only [step] at h
    split at h
    · split at h
      · cases h
        exact ⟨rfl, (List.append_nil _).symm⟩
      · cases h
    · cases h

/-- Whatever else happens to the service, its tables and its reports are those of the rounds it has
finished. -/
theorem run_finished (h : service.run acts = some service') :
    service'.refresher = service.refresher.after (service.finished acts) ∧
      service'.events = service.events ++ (service.refresher.rounds (service.finished acts)).1 := by
  induction acts generalizing service with
  | nil =>
    cases h
    exact ⟨rfl, (List.append_nil _).symm⟩
  | cons act acts ih =>
    obtain ⟨next, hstep, hrun⟩ := Option.bind_eq_some_iff.mp h
    obtain ⟨hrefresher, hevents⟩ := step_round hstep
    obtain ⟨hrefresher', hevents'⟩ := ih hrun
    rw [finished, hstep, Option.elim_some, hrefresher', hevents', hevents, hrefresher]
    cases service.round? act with
    | none => exact ⟨rfl, congrArg (· ++ _) (List.append_nil _)⟩
    | some answers =>
      have hone : (service.refresher.rounds [answers]).1 =
          (service.refresher.round answers).events := List.append_nil _
      refine ⟨rfl, ?_⟩
      rw [Option.toList_some, hone, List.append_assoc]
      rfl

def roundActs (answers : Answers) : List Act :=
  .tick :: Kind.all.map (fun kind => .list kind (answers.get kind)) ++ [.finish]

theorem run_roundActs (hp : service.phase = .waiting) (answers : Answers) :
    (∃ service', service.run (roundActs answers) = some service' ∧ service'.phase = .waiting) ∧
      ∀ acts, service.finished (roundActs answers ++ acts) =
        answers :: (service.run (roundActs answers)).elim [] (·.finished acts) := by
  obtain ⟨channel, refresher, phase, events⟩ := service
  cases hp
  exact ⟨⟨_, rfl, rfl⟩, fun acts => rfl⟩

theorem exists_run (hp : service.phase = .waiting) (rounds : List Answers) :
    ∃ acts service', service.run acts = some service' ∧ service.finished acts = rounds := by
  induction rounds generalizing service with
  | nil => exact ⟨[], service, rfl, rfl⟩
  | cons answers rounds ih =>
    obtain ⟨⟨next, hrun, hp'⟩, hfinished⟩ := run_roundActs hp answers
    obtain ⟨acts, service', hrest, hrounds⟩ := ih hp'
    refine ⟨roundActs answers ++ acts, service', ?_, ?_⟩
    · rw [run_append, hrun]
      exact hrest
    · rw [hfinished, hrun, Option.elim_some, hrounds]

end Service

/-- The rounds report each success, and a failure only if the list did not fail in the round before,
so that two failures of one kind are never reported without a success between them; the table of a kind
holds the rows of its last success, or those it held before the first round. This is all the service
reports and stores, however its rounds come about. -/
theorem rounds_report_news_and_keep_rows (tables : Tables) :
    (∀ rounds answers, (Refresher.new tables).rounds (rounds ++ [answers]) =
      (((Refresher.new tables).rounds rounds).1 ++
          Kind.all.filterMap (fun kind => news? rounds kind (answers.get kind)),
        ((Refresher.new tables).rounds rounds).2 ++ [((Refresher.new tables).after rounds).tables])) ∧
      (∀ rounds kind before first between second after,
        ((Refresher.new tables).rounds rounds).1 =
          before ++ .listFailed kind first :: between ++ .listFailed kind second :: after →
        .listRefreshed kind ∈ between) ∧
      (∀ rounds kind, ((Refresher.new tables).after rounds).tables.get kind =
        (lastRows? rounds kind).getD (tables.get kind)) ∧
      ∀ acts service, (Service.new tables).run acts = some service →
        service.refresher = (Refresher.new tables).after ((Service.new tables).finished acts) ∧
          service.events =
            ((Refresher.new tables).rounds ((Service.new tables).finished acts)).1 := by
  refine ⟨fun rounds answers => ?_, fun rounds kind before first between second after h => ?_,
    fun rounds kind => (Refresher.new tables).tables_after rounds kind,
    fun acts service h => Service.run_finished h⟩
  · rw [Refresher.rounds_concat, Refresher.round]
    simp only [Refresher.report?_after]
  · exact (Refresher.new tables).success_between rounds kind h

end Refresh
end Deckhand
