import Mathlib.Data.List.Induction
import Deckhand.Refresh.Service

namespace Deckhand.Refresh

namespace Act

def asks : Act → Bool
  | notify _ _ => true
  | _ => false

def isAccepted : Act → Bool
  | notify _ accepted => accepted
  | _ => false

def isTake : Act → Bool
  | take => true
  | _ => false

end Act

namespace Service

def pending (service : Service) : Bool :=
  match service.channel.signal with
  | some signal => signal.pending
  | none => false

def Listens (service : Service) : Prop :=
  service.phase ≠ .stopped → service.channel.signal.isSome = true

variable {service service' : Service} {act : Act} {sender : Nat} {accepted : Bool}

theorem step_notify (h : service.step (.notify sender accepted) = some service') :
    service'.phase = service.phase ∧ service'.refresher = service.refresher ∧
      (service.channel.signal = none ∧ service'.channel.signal = none ∨
        ∃ signal, service.channel.signal = some signal ∧ accepted = !signal.pending ∧
          service'.channel.signal = some ⟨true⟩) := by
  simp only [step, Channel.notify] at h
  split at h
  · rename_i answer channel hn
    split at h
    · rename_i ha
      cases h
      split at hn
      · split at hn
        · rename_i signal hs
          cases hn
          exact ⟨rfl, rfl, .inr ⟨signal, hs, ha.symm, rfl⟩⟩
        · rename_i hs
          cases hn
          exact ⟨rfl, rfl, .inl ⟨hs, hs⟩⟩
      · cases hn
    · cases h
  · cases h

theorem step_take (h : service.step .take = some service') :
    service.phase = .waiting ∧ service.channel.signal = some ⟨true⟩ ∧
      service'.channel.signal = some ⟨false⟩ ∧
      service'.phase = .listing (.ofFn fun _ => none) := by
  simp only [step] at h
  split at h
  · rename_i channel hp ht
    cases h
    simp only [Channel.take] at ht
    split at ht
    · rename_i signal hs
      obtain ⟨pending⟩ := signal
      cases ht
      exact ⟨hp, hs, rfl, rfl⟩
    · cases ht
  · cases h

theorem step_signal (h : service.step act = some service') (hs : service'.phase ≠ .stopped)
    (ha : act.asks = false) (ht : act.isTake = false) :
    service.phase ≠ .stopped ∧ service'.channel.signal = service.channel.signal := by
  cases act with
  | notify _ _ => cases ha
  | take => cases ht
  | clone sender =>
    simp only [step, Channel.clone] at h
    split at h
    · rename_i number channel hc
      cases h
      split at hc
      · cases hc
        exact ⟨hs, rfl⟩
      · cases hc
    · cases h
  | drop sender =>
    cases h
    exact ⟨hs, rfl⟩
  | tick =>
    simp only [step] at h
    split at h
    · rename_i hp
      cases h
      exact ⟨fun he => (by cases hp.symm.trans he), rfl⟩
    · cases h
  | list kind answer =>
    simp only [step] at h
    split at h
    · rename_i arrived hp
      split at h
      · cases h
        exact ⟨fun he => (by cases hp.symm.trans he), rfl⟩
      · cases h
    · cases h
  | finish =>
    simp only [step] at h
    split at h
    · rename_i arrived hp
      obtain ⟨answers, -, h⟩ := Option.bind_eq_some_iff.mp h
      cases h
      exact ⟨fun he => (by cases hp.symm.trans he), rfl⟩
    · cases h
  | stop =>
    simp only [step] at h
    split at h
    · cases h
      exact absurd rfl hs
    · cases h

theorem step_slot (hl : service.Listens) (h : service.step act = some service')
    (hs : service'.phase ≠ .stopped) :
    service.phase ≠ .stopped ∧ service'.channel.signal.isSome = true ∧
      service'.pending = (act.asks || (service.pending && !act.isTake)) ∧
      act.isAccepted = (act.asks && !service.pending) ∧
      (act.isTake = true → service.pending = true) := by
  by_cases ha : act.asks = true
  · cases act with
    | notify sender accepted =>
      obtain ⟨hp, -, hsignal⟩ := step_notify h
      rw [hp] at hs
      obtain ⟨hn, -⟩ | ⟨signal, hn, haccepted, hfull⟩ := hsignal
      · have hsome := hl hs
        rw [hn] at hsome
        cases hsome
      · refine ⟨hs, by rw [hfull]; rfl, by simp [pending, hfull, Act.asks], ?_, nofun⟩
        simp [Act.isAccepted, Act.asks, pending, hn, haccepted]
    | _ => cases ha
  · by_cases ht : act.isTake = true
    · cases act with
      | take =>
        obtain ⟨hp, hfull, hempty, -⟩ := step_take h
        refine ⟨fun he => ?_, by rw [hempty]; rfl, ?_, rfl, fun _ => by simp [pending, hfull]⟩
        · cases hp.symm.trans he
        · simp [pending, hempty, Act.asks, Act.isTake]
      | _ => cases ht
    · rw [Bool.not_eq_true] at ha ht
      obtain ⟨hs', hsignal⟩ := step_signal h hs ha ht
      refine ⟨hs', by rw [hsignal]; exact hl hs', ?_, ?_, fun h => by rw [ht] at h; cases h⟩
      · simp [pending, hsignal, ha, ht]
      · cases act with
        | notify _ _ => cases ha
        | _ => rfl

theorem step_listing {arrived : PerKind (Option (Except Failure (List Row)))}
    (hp : service.phase = .listing arrived) (h : service.step act = some service')
    (hf : act ≠ .finish) :
    (∀ kind answer, act ≠ .list kind answer) ∧ service'.phase = .listing arrived ∨
      ∃ kind answer, act = .list kind answer ∧ arrived.get kind = none ∧
        service'.phase = .listing (arrived.set kind (some answer)) := by
  cases act with
  | notify sender accepted => exact .inl ⟨nofun, (step_notify h).1.trans hp⟩
  | clone sender =>
    simp only [step] at h
    split at h
    · cases h
      exact .inl ⟨nofun, hp⟩
    · cases h
  | drop sender =>
    cases h
    exact .inl ⟨nofun, hp⟩
  | list kind answer =>
    simp only [step, hp] at h
    split at h
    · rename_i hn
      cases h
      exact .inr ⟨kind, answer, rfl, hn, rfl⟩
    · cases h
  | finish => exact absurd rfl hf
  | tick | take | stop =>
    simp only [step, hp] at h
    cases h

theorem step_finish (h : service.step .finish = some service') :
    ∃ arrived answers, service.phase = .listing arrived ∧ arrived.all? = some answers ∧
      service'.refresher = (service.refresher.round answers).refresher ∧
      service'.events = service.events ++ (service.refresher.round answers).events := by
  simp only [step] at h
  split at h
  · rename_i arrived hp
    obtain ⟨answers, ha, h⟩ := Option.bind_eq_some_iff.mp h
    cases h
    exact ⟨arrived, answers, hp, ha, rfl, rfl⟩
  · cases h

theorem run_append {start : Service} {front back : List Act} :
    start.run (front ++ back) = (start.run front).bind (·.run back) := List.foldlM_append ..

theorem run_concat {start : Service} {acts : List Act} :
    start.run (acts ++ [act]) = some service' ↔
      ∃ service, start.run acts = some service ∧ service.step act = some service' := by
  rw [run_append, Option.bind_eq_some_iff]
  have hone (service : Service) : service.run [act] = service.step act := by
    simp [run]
  simp only [hone]

/-- A round begins, and before it ends every kind is listed; then the tables hold what was listed. -/
def Refreshes (service : Service) (rest : List Act) : Prop :=
  service.phase = .listing (.ofFn fun _ => none) ∧
    ∀ listed later service', rest = listed ++ .finish :: later → .finish ∉ listed →
      service.run (listed ++ [.finish]) = some service' →
      ∀ kind, ∃ answer, .list kind answer ∈ listed ∧
        ∀ rows, answer = .ok rows → service'.refresher.tables.get kind = rows

theorem listing_of_run {listed : List Act} (hp : service.phase = .listing (.ofFn fun _ => none))
    (h : service.run listed = some service') (hf : .finish ∉ listed) :
    ∃ arrived, service'.phase = .listing arrived ∧
      ∀ kind answer, arrived.get kind = some answer → .list kind answer ∈ listed := by
  induction listed using List.reverseRecOn generalizing service' with
  | nil =>
    cases h
    refine ⟨_, hp, fun kind answer hn => ?_⟩
    rw [PerKind.get_ofFn] at hn
    cases hn
  | append_singleton listed act ih =>
    rw [List.mem_append, List.mem_singleton, not_or] at hf
    obtain ⟨middle, hmiddle, hstep⟩ := run_concat.mp h
    obtain ⟨arrived, hphase, harrived⟩ := ih hmiddle hf.1
    obtain ⟨-, hsame⟩ | ⟨kind, answer, rfl, -, hnext⟩ :=
      step_listing hphase hstep (fun he => hf.2 he.symm)
    · exact ⟨arrived, hsame, fun kind answer hn => List.mem_append_left _ (harrived kind answer hn)⟩
    · refine ⟨_, hnext, fun other answer' hn => ?_⟩
      rw [PerKind.get_set] at hn
      split at hn
      · rename_i ho
        cases hn
        rw [ho]
        exact List.mem_append_right _ List.mem_cons_self
      · exact List.mem_append_left _ (harrived other answer' hn)

theorem refreshes_of_step_take (h : service.step .take = some service') (rest : List Act) :
    service'.Refreshes rest := by
  obtain ⟨-, -, -, hp⟩ := step_take h
  refine ⟨hp, fun listed later last _ hf hrun kind => ?_⟩
  obtain ⟨middle, hmiddle, hfinish⟩ := run_concat.mp hrun
  obtain ⟨arrived, hphase, harrived⟩ := listing_of_run hp hmiddle hf
  obtain ⟨arrived', answers, hphase', hall, hrefresher, -⟩ := step_finish hfinish
  cases hphase.symm.trans hphase'
  refine ⟨answers.get kind, harrived kind _ (PerKind.get_of_all? hall kind), fun rows hr => ?_⟩
  rw [hrefresher, Refresher.round, store, PerKind.get_ofFn, hr]

end Service

/-- Somebody has asked, and the signal has not been taken since. -/
def AskedSince (acts : List Act) : Prop :=
  ∃ before sender accepted after, acts = before ++ .notify sender accepted :: after ∧
    Act.take ∉ after

theorem askedSince_concat {acts : List Act} {act : Act} :
    AskedSince (acts ++ [act]) ↔ act.asks = true ∨ act.isTake = false ∧ AskedSince acts := by
  constructor
  · rintro ⟨before, sender, accepted, after, he, ht⟩
    obtain rfl | ⟨after', last, rfl⟩ := after.eq_nil_or_concat
    · obtain ⟨-, hlast⟩ := List.append_inj' he rfl
      cases hlast
      exact .inl rfl
    · rw [List.concat_eq_append] at he ht
      rw [← List.cons_append, ← List.append_assoc] at he
      obtain ⟨rfl, hlast⟩ := List.append_inj' he rfl
      cases hlast
      rw [List.mem_append, List.mem_singleton, not_or] at ht
      refine .inr ⟨?_, before, sender, accepted, after', rfl, ht.1⟩
      cases act with
      | take => exact absurd rfl ht.2
      | _ => rfl
  · rintro (ha | ⟨ht, before, sender, accepted, after, rfl, hn⟩)
    · cases act with
      | notify sender accepted => exact ⟨acts, sender, accepted, [], rfl, List.not_mem_nil⟩
      | _ => cases ha
    · refine ⟨before, sender, accepted, after ++ [act], by simp, ?_⟩
      rw [List.mem_append, List.mem_singleton, not_or]
      refine ⟨hn, fun he => ?_⟩
      rw [← he] at ht
      cases ht

structure Accounts (acts : List Act) (service : Service) : Prop where
  listens : service.channel.signal.isSome = true
  pending : service.pending = true ↔ AskedSince acts
  balance : acts.countP Act.isAccepted = acts.countP Act.isTake + service.pending.toNat

theorem accounts_new (tables : Tables) : Accounts [] (.new tables) where
  listens := rfl
  pending := by
    constructor
    · exact nofun
    · rintro ⟨before, sender, accepted, after, he, -⟩
      simp at he
  balance := rfl

theorem Accounts.step {acts : List Act} {service service' : Service} {act : Act}
    (h : service.phase ≠ .stopped → Accounts acts service)
    (hstep : service.step act = some service') (hs : service'.phase ≠ .stopped) :
    Accounts (acts ++ [act]) service' := by
  obtain ⟨hs', hlistens, hpending, haccepted, htaken⟩ :=
    Service.step_slot (fun hs => (h hs).listens) hstep hs
  obtain ⟨-, hasked, hbalance⟩ := h hs'
  refine ⟨hlistens, ?_, ?_⟩
  · rw [askedSince_concat, hpending, Bool.or_eq_true, Bool.and_eq_true, Bool.not_eq_true', hasked,
      and_comm]
  · simp only [List.countP_append, List.countP_singleton, haccepted, hpending, hbalance]
    cases act with
    | notify sender accepted => cases service.pending <;> simp [Act.asks, Act.isTake]
    | take => simp [Act.asks, Act.isTake, htaken rfl]
    | _ => simp [Act.asks, Act.isTake]

theorem accounts_of_run {tables : Tables} {acts : List Act} {service : Service}
    (h : (Service.new tables).run acts = some service) (hs : service.phase ≠ .stopped) :
    Accounts acts service := by
  induction acts using List.reverseRecOn generalizing service with
  | nil =>
    cases h
    exact accounts_new tables
  | append_singleton acts act ih =>
    obtain ⟨before, hbefore, hstep⟩ := Service.run_concat.mp h
    exact Accounts.step (ih hbefore) hstep hs

/-- As long as the service is not stopped: at most one accepted request has not been taken, and there
is one exactly if somebody has asked since the last take; a request is accepted exactly if there was
none. So each request that was ever made, accepted or not, is pending or was followed by a take that
started a round of all kinds, and no more rounds were started so than requests were accepted. -/
theorem no_request_is_lost {tables : Tables} {acts : List Act} {service : Service}
    (h : (Service.new tables).run acts = some service) (hs : service.phase ≠ .stopped) :
    (acts.countP Act.isAccepted = acts.countP Act.isTake + service.pending.toNat) ∧
      (service.pending = true ↔ AskedSince acts) ∧
      (∀ sender accepted service', service.step (.notify sender accepted) = some service' →
        (accepted = true ↔ service.pending = false)) ∧
      ∀ before sender accepted after, acts = before ++ .notify sender accepted :: after →
        service.pending = true ∨ ∃ between rest taken, after = between ++ .take :: rest ∧
          (Service.new tables).run (before ++ .notify sender accepted :: between ++ [.take]) =
            some taken ∧
          taken.Refreshes rest := by
  obtain ⟨hlistens, hpending, hbalance⟩ := accounts_of_run h hs
  refine ⟨hbalance, hpending, fun sender accepted service' hstep => ?_, ?_⟩
  · have hs' : service'.phase ≠ .stopped := by
      rw [(Service.step_notify hstep).1]
      exact hs
    obtain ⟨-, -, -, haccepted, -⟩ := Service.step_slot (fun _ => hlistens) hstep hs'
    change accepted = !service.pending at haccepted
    rw [haccepted, Bool.not_eq_true']
  · rintro before sender accepted after rfl
    by_cases ht : .take ∈ after
    · right
      obtain ⟨between, rest, rfl⟩ := List.append_of_mem ht
      have hsplit : before ++ .notify sender accepted :: (between ++ .take :: rest) =
          before ++ .notify sender accepted :: between ++ [.take] ++ rest := by simp
      rw [hsplit, Service.run_append, Option.bind_eq_some_iff] at h
      obtain ⟨taken, htaken, -⟩ := h
      obtain ⟨_, -, hstep⟩ := Service.run_concat.mp htaken
      exact ⟨between, rest, taken, rfl, htaken, Service.refreshes_of_step_take hstep rest⟩
    · exact .inl (hpending.mpr ⟨before, sender, accepted, after, rfl, ht⟩)

def requestsAroundARound : List Act :=
  [.clone 0, .notify 0 true, .notify 1 false, .take, .list .pods (.ok []), .notify 1 true,
    .list .images (.error .noHomeDirectory), .list .containers (.ok []), .list .volumes (.ok []),
    .list .networks (.ok []), .finish, .take]

theorem requests_around_a_round_are_kept :
    ∃ service, (Service.new .empty).run requestsAroundARound = some service ∧
      service.phase ≠ .stopped ∧ service.pending = false ∧ ¬ AskedSince requestsAroundARound ∧
      requestsAroundARound.countP Act.isAccepted = requestsAroundARound.countP Act.isTake ∧
      ∃ between rest taken, requestsAroundARound.drop 3 = between ++ .take :: rest ∧
        (Service.new .empty).run (requestsAroundARound.take 3 ++ between ++ [.take]) =
          some taken ∧
        taken.Refreshes rest := by
  obtain ⟨service, hrun⟩ : ∃ service, (Service.new .empty).run requestsAroundARound = some service :=
    ⟨_, rfl⟩
  have hpending : service.pending = false := by
    cases hrun
    rfl
  have hphase : service.phase ≠ .stopped := by
    cases hrun
    exact nofun
  obtain ⟨hbalance, hasked, -, hserved⟩ := no_request_is_lost hrun hphase
  rw [hpending] at hbalance hasked
  refine ⟨service, hrun, hphase, hpending, fun h => Bool.false_ne_true (hasked.mpr h), hbalance, ?_⟩
  obtain hfull | ⟨between, rest, taken, hafter, htaken, hrefreshes⟩ :=
    hserved (requestsAroundARound.take 2) 1 false (requestsAroundARound.drop 3) rfl
  · rw [hpending] at hfull
    cases hfull
  · exact ⟨between, rest, taken, hafter, htaken, hrefreshes⟩

end Deckhand.Refresh
