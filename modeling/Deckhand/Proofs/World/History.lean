import Deckhand.Proofs.Board.History
import Deckhand.Proofs.World.Operations

namespace Deckhand

namespace World

variable {w : World} {call : Call}

theorem running_perform (w : World) (request : Request) : (w.perform request).running =
    match request with
    | .run kind id operation => w.running ++ [⟨kind, id, operation⟩]
    | _ => w.running := by
  cases request with
  | startLive kind id ids => exact running_stop _ kind
  | stopLive kind => exact running_stop _ kind
  | _ => rfl

theorem mem_running_performs {requests : List Request}
    (h : call ∈ (requests.foldl perform w).running) :
    call ∈ w.running ∨ .run call.kind call.id call.operation ∈ requests := by
  induction requests generalizing w with
  | nil => exact .inl h
  | cons request requests ih =>
    obtain hc | hc := ih h
    · rw [running_perform] at hc
      cases request with
      | run kind id operation =>
        refine (List.mem_append.mp hc).imp_right fun hc => ?_
        rw [List.mem_singleton.mp hc]
        exact List.mem_cons_self
      | _ => exact .inl hc
    · exact .inr (List.mem_cons_of_mem _ hc)

theorem mem_running_handle {event : Event} (h : call ∈ (w.handle event).running) :
    call ∈ w.running ∨ .run call.kind call.id call.operation ∈ (w.board.handle event).requests := by
  have hrun : call ∈ { w with board := (w.board.handle event).board }.running ∨
      .run call.kind call.id call.operation ∈ (w.board.handle event).requests :=
    mem_running_performs h
  exact hrun

theorem mem_of_mem_cons_of_endsNothing {event : Event} {mail : List Event}
    (he : event.EndsNothing) {kind : Kind} {id : OperationId} {label : Label}
    {result : Except Failure Outcome} (h : .finished kind id label result ∈ event :: mail) :
    .finished kind id label result ∈ mail := by
  refine List.mem_of_ne_of_mem (fun heq => ?_) h
  have hnone := he kind
  rw [← heq] at hnone
  simp [Event.finishedFor?] at hnone

end World

namespace History

def HasRun (h : History) (n : Nat) (kind : Kind) (id : OperationId) (label : Label) : Prop :=
  ∃ m < n, ∃ operation, .run kind id operation ∈ h.requests m ∧ operation.label = label

/-- What is reported to have ended was run before, for the same kind and under the same label. -/
def EndsWhatRan (h : History) : Prop :=
  ∀ n kind id label result, h.event? n = some (.finished kind id label result) →
    h.HasRun n kind id label

variable {h : History} {n : Nat} {kind : Kind}

def append (h : History) (incident : Incident) : History :=
  { h with incidents := h.incidents ++ [incident] }

section

variable {incident : Incident}

theorem board_append (hn : n ≤ h.incidents.length) : (h.append incident).board n = h.board n := by
  unfold board append
  rw [List.take_append_of_le_length hn]

theorem event?_append (hn : n < h.incidents.length) :
    (h.append incident).event? n = h.event? n := by
  unfold event? append
  rw [List.getElem?_append_left hn]

theorem requests_append (hn : n < h.incidents.length) :
    (h.append incident).requests n = h.requests n := by
  unfold requests
  rw [event?_append hn, board_append (Nat.le_of_lt hn)]

theorem getElem?_append_length (h : History) (incident : Incident) :
    (h.append incident).incidents[h.incidents.length]? = some incident :=
  List.getElem?_concat_length

theorem requests_append_length (h : History) (incident : Incident) :
    (h.append incident).requests h.incidents.length =
      ((h.board h.incidents.length).meet incident).requests := by
  unfold requests event?
  rw [getElem?_append_length, board_append (Nat.le_refl _)]
  cases incident <;> rfl

theorem HasRun.append {id : OperationId} {label : Label} (hr : h.HasRun n kind id label)
    (hn : n ≤ h.incidents.length) : (h.append incident).HasRun n kind id label := by
  obtain ⟨m, hm, operation, hreq, hl⟩ := hr
  exact ⟨m, hm, operation, requests_append (Nat.lt_of_lt_of_le hm hn) ▸ hreq, hl⟩

theorem HasRun.mono {m : Nat} {id : OperationId} {label : Label} (hr : h.HasRun m kind id label)
    (hn : m ≤ n) : h.HasRun n kind id label := by
  obtain ⟨k, hk, hrest⟩ := hr
  exact ⟨k, Nat.lt_of_lt_of_le hk hn, hrest⟩

end

structure LeadsTo (h : History) (w : World) : Prop where
  board : h.board h.incidents.length = w.board
  ends : h.EndsWhatRan
  running : ∀ call ∈ w.running, h.HasRun h.incidents.length call.kind call.id call.operation.label
  mail : ∀ kind id label result, .finished kind id label result ∈ w.mail →
    h.HasRun h.incidents.length kind id label

theorem EndsWhatRan.append (he : h.EndsWhatRan) {incident : Incident}
    (hi : ∀ kind id label result, incident = .event (.finished kind id label result) →
      h.HasRun h.incidents.length kind id label) : (h.append incident).EndsWhatRan := by
  intro n kind id label result hf
  obtain hlt | rfl | hgt := Nat.lt_trichotomy n h.incidents.length
  · rw [event?_append hlt] at hf
    exact (he n kind id label result hf).append (Nat.le_of_lt hlt)
  · unfold event? at hf
    rw [getElem?_append_length] at hf
    refine (hi kind id label result ?_).append (Nat.le_refl _)
    cases incident with
    | event event => exact congrArg _ (Option.some.inj hf)
    | rows kind rows => cases hf
  · have hlen : (h.append incident).incidents.length ≤ n := by
      rw [History.append, List.length_append]
      exact hgt
    unfold event? at hf
    rw [List.getElem?_eq_none hlen] at hf
    cases hf

theorem LeadsTo.append {w w' : World} (hl : h.LeadsTo w) {incident : Incident}
    (hb : w'.board = (w.board.meet incident).board)
    (hi : ∀ kind id label result, incident = .event (.finished kind id label result) →
      h.HasRun h.incidents.length kind id label)
    (hr : ∀ call ∈ w'.running, call ∈ w.running ∨
      .run call.kind call.id call.operation ∈ (w.board.meet incident).requests)
    (hm : ∀ event ∈ w'.mail, event ∈ w.mail) : (h.append incident).LeadsTo w' := by
  have hlength : (h.append incident).incidents.length = h.incidents.length + 1 :=
    List.length_append
  have hold {kind : Kind} {id : OperationId} {label : Label}
      (hrun : h.HasRun h.incidents.length kind id label) :
      (h.append incident).HasRun (h.append incident).incidents.length kind id label :=
    (hrun.append (Nat.le_refl _)).mono (by omega)
  refine ⟨?_, hl.ends.append hi, fun call hc => ?_, fun kind id label result hf => ?_⟩
  · rw [hlength, board_succ_of_getElem? (getElem?_append_length h incident),
      board_append (Nat.le_refl _), hl.board, hb]
  · obtain hc | hc := hr call hc
    · exact hold (hl.running call hc)
    · refine ⟨h.incidents.length, by omega, call.operation, ?_, rfl⟩
      rw [requests_append_length, hl.board]
      exact hc
  · exact hold (hl.mail kind id label result (hm _ hf))

theorem LeadsTo.of_board {w w' : World} (hl : h.LeadsTo w) (hb : w'.board = w.board)
    (hr : ∀ call ∈ w'.running, call ∈ w.running)
    (hm : ∀ kind id label result, .finished kind id label result ∈ w'.mail →
      .finished kind id label result ∈ w.mail ∨ h.HasRun h.incidents.length kind id label) :
    h.LeadsTo w' where
  board := hl.board.trans hb.symm
  ends := hl.ends
  running call hc := hl.running call (hr call hc)
  mail kind id label result hf :=
    (hm kind id label result hf).elim (hl.mail kind id label result) fun hrun => hrun

theorem LeadsTo.handle {w : World} (hl : h.LeadsTo w) {event : Event}
    (he : ∀ kind id label result, event = .finished kind id label result →
      h.HasRun h.incidents.length kind id label) :
    (h.append (.event event)).LeadsTo (w.handle event) := by
  refine hl.append (World.board_handle w event) (fun kind id label result hi => ?_)
    (fun _ hc => World.mem_running_handle hc) fun other hm => ?_
  · exact he kind id label result (Incident.event.inj hi)
  · rwa [World.mail_handle] at hm

end History

namespace World

variable {h : History} {w w' : World} {settings : Settings} {tables : Tables}

theorem Step.leadsTo (hs : Step Event.EndsNothing w w') (hl : h.LeadsTo w) :
    h.LeadsTo w' ∨ ∃ incident, (h.append incident).LeadsTo w' := by
  cases hs with
  | key key => exact .inr ⟨_, hl.handle fun _ _ _ _ he => by cases he⟩
  | resize width height => exact .inr ⟨_, hl.handle fun _ _ _ _ he => by cases he⟩
  | @deliver event rest hm =>
    have hrest : h.LeadsTo { w with mail := rest } :=
      hl.of_board rfl (fun _ hc => hc) fun _ _ _ _ hf =>
        .inl (hm.symm.subset (List.mem_cons_of_mem _ hf))
    refine .inr ⟨_, hrest.handle fun kind id label result he => ?_⟩
    subst he
    exact hl.mail kind id label result (hm.symm.subset List.mem_cons_self)
  | @finish call rest result hr =>
    refine .inl (hl.of_board rfl (fun _ hc => hr.symm.subset (List.mem_cons_of_mem _ hc))
      fun kind id label other hf => ?_)
    obtain he | hf := List.mem_cons.mp hf
    · cases he
      exact .inr (hl.running call (hr.symm.subset List.mem_cons_self))
    · exact .inl hf
  | load choices _ =>
    exact .inl (hl.of_board rfl (fun _ hc => hc) fun _ _ _ _ hf =>
      .inl (mem_of_mem_cons_of_endsNothing (fun _ => rfl) hf))
  | sample result _ _ =>
    exact .inl (hl.of_board rfl (fun _ hc => hc) fun _ _ _ _ hf =>
      .inl (mem_of_mem_cons_of_endsNothing (finishedFor?_sampler _ _) hf))
  | store kind rows =>
    exact .inr ⟨.rows kind rows, hl.append rfl (fun _ _ _ _ he => by cases he)
      (fun _ hc => .inl hc) fun _ he => he⟩
  | send he =>
    exact .inl (hl.of_board rfl (fun _ hc => hc) fun _ _ _ _ hf =>
      .inl (mem_of_mem_cons_of_endsNothing he hf))

/-- Every world has a history, in which only what was run comes to an end. -/
theorem Reachable.exists_history (hr : Reachable Event.EndsNothing settings tables w) :
    ∃ h : History, h.settings = settings ∧ h.tables = tables ∧ h.LeadsTo w := by
  induction hr with
  | start =>
    refine ⟨⟨settings, tables, []⟩, rfl, rfl, rfl, ?_, ?_, ?_⟩
    · intro n kind id label result hf
      cases hf
    · intro call hc
      cases hc
    · intro kind id label result hf
      cases hf
  | next _ hs ih =>
    obtain ⟨h, hsettings, htables, hl⟩ := ih
    obtain hl | ⟨incident, hl⟩ := hs.leadsTo hl
    · exact ⟨h, hsettings, htables, hl⟩
    · exact ⟨h.append incident, hsettings, htables, hl⟩

end World

end Deckhand
