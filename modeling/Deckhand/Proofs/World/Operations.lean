import Deckhand.Proofs.Board.Submit
import Deckhand.Proofs.World.Basic

namespace Deckhand

def Event.finishedFor? (kind : Kind) : Event → Option OperationId
  | .finished other id _ _ => if other = kind then some id else none
  | _ => none

def Request.startedFor? (kind : Kind) : Request → Option OperationId
  | .run other id _ => if other = kind then some id else none
  | _ => none

def Call.idFor? (kind : Kind) (call : Call) : Option OperationId :=
  if call.kind = kind then some call.id else none

def Board.ignoring (kind : Kind) (operation : Operation) : Notification :=
  .info (kind.noun ++ " " ++ operation.verb ++ " ignored: another " ++ kind.noun ++
    " operation is in progress")

theorem Text.getLast?_append (first : String) {last : String} {c : Char}
    (h : last.toList.getLast? = some c) : (first ++ last).toList.getLast? = some c := by
  rw [String.toList_append, List.getLast?_append, h]
  rfl

theorem Board.finished_ne_ignoring (text : String) (kind : Kind) (operation : Operation) :
    Notification.info (text ++ " finished") ≠ ignoring kind operation := by
  intro h
  have hd : (text ++ " finished").toList.getLast? = some 'd' := Text.getLast?_append _ (by decide)
  rw [Notification.info.inj h, Text.getLast?_append _ (c := 's') (by decide)] at hd
  cases hd

namespace Page

variable {c : Context} {page page' : Page} {event : Event} {output : Output}

theorem settle_inFlight (page : Page) {id : OperationId} {rest : List OperationId}
    (h : id :: rest = page.inFlight.toList) : rest = (page.settle id).inFlight.toList := by
  cases hi : page.inFlight with
  | none =>
    rw [hi] at h
    cases h
  | some other =>
    rw [hi] at h
    cases h
    simp [settle, hi]

theorem startedFor?_refreshNow (kind : Kind) (asked : Bool) :
    (if asked then [Request.refreshNow] else []).filterMap (·.startedFor? kind) = [] := by
  cases asked <;> rfl

theorem startedFor?_stopLive (kind other : Kind) (live : Bool) :
    (if live then [Request.stopLive other] else []).filterMap (·.startedFor? kind) = [] := by
  cases live <;> rfl

theorem Step.outstanding (hs : Step c page event page' output) {rest : List OperationId}
    (h : (event.finishedFor? c.kind).toList ++ rest = page.inFlight.toList) :
    rest ++ output.requests.filterMap (·.startedFor? c.kind) = page'.inFlight.toList := by
  have hend {id : OperationId} {label : Label} {result : Except Failure Outcome}
      (h : ((Event.finished c.kind id label result).finishedFor? c.kind).toList ++ rest =
        page.inFlight.toList) : rest = (page.settle id).inFlight.toList := by
    simp only [Event.finishedFor?, if_true] at h
    exact page.settle_inFlight h
  cases hs with
  | begin hsub hq =>
    rw [hsub.inFlight] at hq
    rw [hq] at h
    have hr : rest = [] := h
    rw [hr]
    simp [Request.startedFor?, await]
  | busy hsub _ =>
    rw [hsub.inFlight]
    exact (List.append_nil rest).trans h
  | fail => exact (List.append_nil rest).trans (hend h)
  | succeed _ | present _ _ | mention _ _ =>
    rw [startedFor?_refreshNow, List.append_nil]
    exact hend h
  | closeStats _ _ | failStats _ _ =>
    rw [startedFor?_stopLive, List.append_nil]
    exact h
  | _ => simpa [Event.finishedFor?, Request.startedFor?] using h

theorem Step.startedFor?_of_ne (hs : Step c page event page' output) {kind : Kind}
    (h : kind ≠ c.kind) : output.requests.filterMap (·.startedFor? kind) = [] := by
  rw [List.filterMap_eq_nil_iff]
  intro request hr
  cases request with
  | run other id operation =>
    obtain ⟨-, -, -, -, -, hk, -⟩ := hs.submits hr
    have hne : other ≠ kind := fun he => h (he.symm.trans hk)
    exact if_neg hne
  | _ => rfl

theorem Step.notice_ne (hs : Step c page event page' output) (h : page.Sound c.kind) (kind : Kind)
    (operation : Operation) : output.notice ≠ some (Board.ignoring kind operation) := by
  intro hn
  cases hs with
  | busy hsub hq =>
    obtain ⟨hi, -⟩ := hsub.idle h
    cases hi.inFlight.symm.trans hq
  | mention _ _ => exact Board.finished_ne_ignoring _ kind operation (Option.some.inj hn)
  | _ => cases hn

end Page

namespace Board

variable {board : Board} {event : Event}

theorem finishedFor?_of_addressee {kind : Kind} (h : board.addressee event ≠ some kind) :
    event.finishedFor? kind = none := by
  cases event with
  | finished other id label result => exact if_neg fun he => h (congrArg some he)
  | _ => rfl

theorem handle_outstanding {kind : Kind} {rest : List OperationId}
    (h : (event.finishedFor? kind).toList ++ rest = (board.page kind).inFlight.toList) :
    rest ++ (board.handle event).requests.filterMap (·.startedFor? kind) =
      ((board.handle event).board.page kind).inFlight.toList := by
  by_cases ha : board.addressee event = some kind
  · obtain ⟨notice, hs, -⟩ := handle_step ha
    exact hs.outstanding h
  · have hp : ((board.handle event).board.page kind).inFlight = (board.page kind).inFlight := by
      obtain hp | ⟨-, hp⟩ := handle_page_of_ne ha <;> rw [hp]
      exact Page.inFlight_reconcile _ _
    have hr : (board.handle event).requests.filterMap (·.startedFor? kind) = [] := by
      cases hother : board.addressee event with
      | none => rw [requests_of_addressee_eq_none hother]; rfl
      | some other =>
        obtain ⟨notice, hs, -⟩ := handle_step hother
        exact hs.startedFor?_of_ne fun he => ha (by rw [hother, he]; rfl)
    rw [finishedFor?_of_addressee ha] at h
    rw [hp, hr, List.append_nil]
    exact h

theorem notification_heard (board : Board) (event : Event) :
    (board.heard event).notification = board.notification ∨
      (board.heard event).notification = none := by
  cases event with
  | key key =>
    unfold heard
    dsimp only
    split
    · exact .inl rfl
    · exact .inr rfl
  | _ => exact .inl rfl

def NeverIgnores (board : Board) : Prop :=
  ∀ kind operation, board.notification ≠ some (ignoring kind operation)

theorem NeverIgnores.handle (h : board.NeverIgnores) (hs : board.Sound) (event : Event) :
    (board.handle event).board.NeverIgnores := by
  intro kind operation
  cases ha : board.addressee event with
  | none =>
    cases event with
    | resize width height => exact h kind operation
    | _ => cases ha
  | some addressee =>
    obtain ⟨notice, hstep, hn⟩ := handle_step ha
    have hne := hstep.notice_ne (hs addressee) kind operation
    rw [hn]
    cases notice with
    | some shown => exact hne
    | none =>
      obtain hb | hb := notification_heard board event
      · rw [Option.none_or, hb]
        exact h kind operation
      · rw [Option.none_or, hb]
        exact fun he => by cases he

end Board

namespace World

/-- The operations of a kind that were started and whose end has not been handled. -/
def outstanding (w : World) (kind : Kind) : List OperationId :=
  w.mail.filterMap (·.finishedFor? kind) ++ w.running.filterMap (·.idFor? kind)

theorem outstanding_stop (w : World) (other kind : Kind) :
    (w.stop other).outstanding kind = w.outstanding kind := by
  unfold outstanding
  rw [mail_stop, running_stop]

theorem outstanding_perform (w : World) (request : Request) (kind : Kind) :
    (w.perform request).outstanding kind =
      w.outstanding kind ++ (request.startedFor? kind).toList := by
  cases request with
  | run other id operation =>
    simp only [perform, outstanding, List.filterMap_append, List.append_assoc]
    by_cases h : other = kind <;> simp [Call.idFor?, Request.startedFor?, h]
  | startLive other id ids => exact (outstanding_stop _ other kind).trans (List.append_nil _).symm
  | stopLive other => exact (outstanding_stop _ other kind).trans (List.append_nil _).symm
  | _ => exact (List.append_nil _).symm

theorem outstanding_performs (w : World) (requests : List Request) (kind : Kind) :
    (requests.foldl perform w).outstanding kind =
      w.outstanding kind ++ requests.filterMap (·.startedFor? kind) := by
  induction requests generalizing w with
  | nil => exact (List.append_nil _).symm
  | cons request requests ih =>
    rw [List.foldl_cons, ih, outstanding_perform, List.append_assoc]
    cases h : request.startedFor? kind <;> simp [h]

theorem outstanding_handle {w : World} {event : Event} {kind : Kind}
    (h : (event.finishedFor? kind).toList ++ w.outstanding kind =
      (w.page kind).inFlight.toList) :
    (w.handle event).outstanding kind = ((w.handle event).page kind).inFlight.toList := by
  unfold handle
  rw [outstanding_performs, page, board_performs]
  exact Board.handle_outstanding h

theorem eq_toList_of_perm {α : Type} {items : List α} {item : Option α}
    (h : items.Perm item.toList) : items = item.toList := by
  cases item with
  | none => exact List.perm_nil.mp h
  | some item => exact List.perm_singleton.mp h

theorem filterMap_finishedFor?_cons {event : Event} {kind : Kind} (mail : List Event)
    (h : event.finishedFor? kind = none) :
    (event :: mail).filterMap (·.finishedFor? kind) = mail.filterMap (·.finishedFor? kind) :=
  List.filterMap_cons_none h

theorem finishedFor?_sampler (sampler : Sampler) (result : Except Failure Outcome) (kind : Kind) :
    (sampler.event result).finishedFor? kind = none := by
  cases result with
  | error failure => rfl
  | ok outcome => cases outcome <;> rfl

end World

/-- A message that reports the end of no operation. -/
def Event.EndsNothing (event : Event) : Prop := ∀ kind, event.finishedFor? kind = none

namespace World

variable {settings : Settings} {tables : Tables} {w w' : World}

theorem Step.outstanding {kind : Kind} (hs : Step Event.EndsNothing w w')
    (h : w.outstanding kind = (w.page kind).inFlight.toList) :
    w'.outstanding kind = (w'.page kind).inFlight.toList := by
  cases hs with
  | key key => exact outstanding_handle h
  | resize width height => exact outstanding_handle h
  | @deliver event rest hm =>
    apply outstanding_handle
    apply eq_toList_of_perm
    have hp : ((event :: rest).filterMap (·.finishedFor? kind) ++
        w.running.filterMap (·.idFor? kind)).Perm (w.outstanding kind) :=
      (hm.symm.filterMap _).append_right _
    rw [h] at hp
    refine List.Perm.trans ?_ hp
    cases he : event.finishedFor? kind with
    | none => simp [outstanding, he]
    | some id => simp [outstanding, he]
  | @finish call rest result hr =>
    apply eq_toList_of_perm
    have hp : (w.mail.filterMap (·.finishedFor? kind) ++
        (call :: rest).filterMap (·.idFor? kind)).Perm (w.outstanding kind) :=
      (hr.symm.filterMap _).append_left _
    rw [h] at hp
    refine List.Perm.trans ?_ hp
    by_cases hk : call.kind = kind
    · simp only [outstanding, Event.finishedFor?, Call.idFor?, hk, if_true, List.filterMap_cons,
        List.cons_append]
      exact List.perm_middle.symm
    · simp [outstanding, Event.finishedFor?, Call.idFor?, hk]
  | load choices hl => exact h
  | sample result ha haw =>
    rw [outstanding, filterMap_finishedFor?_cons _ (finishedFor?_sampler _ _ kind)]
    exact h
  | store other rows => exact h
  | send he =>
    rw [outstanding, filterMap_finishedFor?_cons _ (he kind)]
    exact h

theorem Reachable.outstanding (h : Reachable Event.EndsNothing settings tables w) (kind : Kind) :
    w.outstanding kind = (w.page kind).inFlight.toList := by
  induction h with
  | start =>
    have hp : (World.start settings tables).page kind = .empty := PerKind.get_ofFn _ kind
    rw [hp]
    rfl
  | next _ hs ih => exact hs.outstanding ih

theorem Reachable.inFlight_of_mem_outstanding (h : Reachable Event.EndsNothing settings tables w)
    {kind : Kind} {id : OperationId} (hid : id ∈ w.outstanding kind) :
    (w.page kind).inFlight = some id := by
  rw [h.outstanding kind] at hid
  exact Option.mem_toList.mp hid

theorem Reachable.neverIgnores {stray : Event → Prop} (h : Reachable stray settings tables w) :
    w.board.NeverIgnores := by
  induction h with
  | start => exact fun _ _ he => by cases he
  | next hr hs ih =>
    obtain ⟨event, hb⟩ | hb | ⟨kind, rows, hb⟩ := hs.board
    · rw [hb]
      exact ih.handle hr.sound event
    · rw [hb]
      exact ih
    · rw [hb]
      exact ih

/-- Whatever runs in the background and in whatever order it reports, a page waits for an operation
exactly while it shows its progress, and exactly while the end of that one operation is the only one
still to be handled. What is handed in is always run, and never ignored. -/
theorem waits_for_the_one_outstanding_operation
    (h : Reachable Event.EndsNothing settings tables w) (kind : Kind) :
    (∀ id, (w.page kind).inFlight = some id ↔
        ∃ progress, (w.page kind).layers.dialog = some (.progress progress) ∧ progress.id = id) ∧
      (∀ id, (w.page kind).inFlight = some id ↔ w.outstanding kind = [id]) ∧
      (w.outstanding kind).length ≤ 1 ∧
      (∀ key operation rest, w.board.active = kind →
        (w.page kind).Submits kind key operation rest → rest.inFlight = none ∧
          (w.board.handle (.key key)).requests = [.run kind ⟨w.board.nextId⟩ operation]) ∧
      w.board.NeverIgnores := by
  have hsound : (w.page kind).Sound kind := h.sound kind
  have hout := h.outstanding kind
  refine ⟨fun id => ?_, fun id => ?_, ?_, ?_, h.neverIgnores⟩
  · rw [hsound.inFlight]
    constructor
    · intro hi
      obtain ⟨dialog, hd, hp⟩ := Option.bind_eq_some_iff.mp hi
      cases dialog with
      | progress progress => exact ⟨progress, hd, Option.some.inj hp⟩
      | _ => cases hp
    · rintro ⟨progress, hd, rfl⟩
      rw [hd]
      rfl
  · rw [hout]
    constructor
    · intro hi
      rw [hi]
      rfl
    · intro hi
      exact Option.toList_eq_singleton_iff.mp hi
  · rw [hout]
    exact Option.length_toList_le
  · intro key operation rest ha hs
    have hr : rest.inFlight = none := (hs.idle hsound).1.inFlight
    subst ha
    exact ⟨hr, Board.requests_of_submits hs hr⟩

def inspecting : World :=
  (World.start {} ⟨[], [], [], [⟨"9a", "backbone", []⟩], []⟩).keys
    [.char '4', .enter, .down, .enter]

theorem inspection_is_outstanding :
    (inspecting.page .networks).inFlight = some ⟨1⟩ ∧ inspecting.outstanding .networks = [⟨1⟩] := by
  have hr : Reachable Event.EndsNothing {} ⟨[], [], [], [⟨"9a", "backbone", []⟩], []⟩ inspecting :=
    Reachable.start.keys _
  have hi : (inspecting.page .networks).inFlight = some ⟨1⟩ := by decide +kernel
  obtain ⟨-, hiff, -⟩ := waits_for_the_one_outstanding_operation hr .networks
  exact ⟨hi, (hiff ⟨1⟩).mp hi⟩

end World

end Deckhand
