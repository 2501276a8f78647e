import Mathlib.Logic.Relation
import Deckhand.Proofs.Board.Errors
import Deckhand.Proofs.World.Operations

namespace Deckhand.World

/-- What can be handled next: a key, a new size of the screen, or a message that has been sent. -/
inductive Comes (w : World) : Event → Prop
  | key (key : Key) : Comes w (.key key)
  | resize (width height : Nat) : Comes w (.resize width height)
  | mail {event} : event ∈ w.mail → Comes w event

def Dismisses (kind : Kind) (w w' : World) : Prop :=
  ∃ key : Key, (key.code = .enter ∨ key.code = .escape) ∧ w.board.active = kind ∧
    w'.board = (w.board.handle (.key key)).board ∧
    w'.page kind = { w.page kind with layers := (w.page kind).layers.dismissError }

variable {stray : Event → Prop} {settings : Settings} {tables : Tables} {w w' : World}
variable {event : Event} {kind : Kind} {notice : Notice}

theorem Step.comes (hs : Step stray w w') :
    (∃ event, w.Comes event ∧ w'.board = (w.board.handle event).board) ∨
      ∀ kind, w'.page kind = w.page kind := by
  cases hs with
  | key key => exact .inl ⟨_, .key key, board_handle w _⟩
  | resize width height => exact .inl ⟨_, .resize width height, board_handle w _⟩
  | @deliver event rest hm =>
    exact .inl ⟨event, .mail (hm.symm.subset List.mem_cons_self), board_handle _ _⟩
  | _ => exact .inr fun _ => rfl

theorem Reachable.steps (h : Reachable stray settings tables w)
    (hs : Relation.ReflTransGen (Step stray) w w') : Reachable stray settings tables w' := by
  induction hs with
  | refl => exact h
  | tail _ hs ih => exact ih.next hs

theorem Reachable.inFlight_of_comes (h : Reachable Event.EndsNothing settings tables w)
    (hc : w.Comes event) {id : OperationId} {label : Label} {result : Except Failure Outcome}
    (he : event = .finished kind id label result) : (w.page kind).inFlight = some id := by
  subst he
  cases hc with
  | mail hm =>
    refine h.inFlight_of_mem_outstanding
      (List.mem_append_left _ (List.mem_filterMap.mpr ⟨_, hm, ?_⟩))
    exact if_pos rfl

theorem Reachable.restsUnderErrors (h : Reachable Event.EndsNothing settings tables w) :
    w.board.RestsUnderErrors := by
  induction h with
  | start => exact Board.restsUnderErrors_new settings tables
  | next hr hs ih =>
    obtain ⟨event, hc, hb⟩ | hp := hs.comes
    · rw [hb]
      exact ih.handle hr.sound fun _ _ _ _ he => hr.inFlight_of_comes hc he
    · intro kind
      have hk := hp kind
      unfold page at hk
      rw [hk]
      exact ih kind

theorem Reachable.error_eq_none (h : Reachable Event.EndsNothing settings tables w)
    (hc : w.Comes event) (hr : (w.page kind).Raises kind event notice) :
    (w.page kind).layers.error = none :=
  hr.error_eq_none (h.sound kind) (h.restsUnderErrors kind) fun _ _ _ he =>
    h.inFlight_of_comes hc he

theorem Reachable.error_step (h : Reachable Event.EndsNothing settings tables w)
    (hs : Step Event.EndsNothing w w') (he : (w.page kind).layers.error = some notice) :
    (w'.page kind).layers.error = some notice ∨ Dismisses kind w w' := by
  obtain ⟨event, hc, hb⟩ | hp := hs.comes
  · have hpage : w'.page kind = (w.board.handle event).board.page kind := by rw [page, hb]
    by_cases ha : w.board.addressee event = some kind
    · obtain ⟨notice', hstep, -⟩ := Board.handle_step ha
      rw [← hpage] at hstep
      obtain hsame | ⟨key, rfl, hk, hd⟩ | ⟨notice'', hraise, -⟩ := hstep.error
      · exact .inl (hsame.trans he)
      · exact .inr ⟨key, hk, Option.some.inj ha, hb, hd⟩
      · have hnone : (w.page kind).layers.error = none := h.error_eq_none hc hraise
        rw [he] at hnone
        cases hnone
    · left
      obtain hsame | ⟨-, hsame⟩ := Board.handle_page_of_ne ha
      · rw [hpage, hsame]
        exact he
      · rw [hpage, hsame, Page.layers_reconcile]
        exact he
  · rw [hp kind]
    exact .inl he

/-- Along a run an error stays, or it stays up to a step that dismisses it. -/
theorem Reachable.error_steps (h : Reachable Event.EndsNothing settings tables w)
    (hs : Relation.ReflTransGen (Step Event.EndsNothing) w w')
    (he : (w.page kind).layers.error = some notice) :
    (w'.page kind).layers.error = some notice ∨
      ∃ u u', Relation.ReflTransGen (Step Event.EndsNothing) w u ∧
        (u.page kind).layers.error = some notice ∧ Step Event.EndsNothing u u' ∧
        Dismisses kind u u' ∧ Relation.ReflTransGen (Step Event.EndsNothing) u' w' := by
  induction hs with
  | refl => exact .inl he
  | @tail v w' hv hs ih =>
    obtain hstays | ⟨u, u', hu, hshown, hdismiss, hd, hrest⟩ := ih
    · obtain hstays' | hd := (h.steps hv).error_step hs hstays
      · exact .inl hstays'
      · exact .inr ⟨v, w', hv, hstays, hs, hd, .refl⟩
    · exact .inr ⟨u, u', hu, hshown, hdismiss, hd, hrest.tail hs⟩

/-- Whatever runs in the background and in whatever order it reports, an error is raised for one of
the four reasons and over a page that shows none. It is shown under its own title and stays until
Enter or Esc is pressed on its page, and there these keys take it away and do nothing else. -/
theorem errors_stay_until_dismissed (h : Reachable Event.EndsNothing settings tables w) :
    (∀ event, ∀ entry ∈ (w.board.handle event).journal, entry.level = .error →
      ∃ kind notice, w.board.addressee event = some kind ∧
        (w.page kind).Raises kind event notice) ∧
      (∀ event kind notice, w.Comes event → w.board.addressee event = some kind →
        (w.page kind).Raises kind event notice →
          (w.page kind).layers.error = none ∧ (w.board.handle event).Reports kind notice) ∧
      ∀ kind notice, (w.page kind).layers.error = some notice →
        (∀ key : Key, w.board.active = kind → key.code = .enter ∨ key.code = .escape →
          Dismisses kind w (w.handle (.key key))) ∧
        ∀ w', Relation.ReflTransGen (Step Event.EndsNothing) w w' →
          (w'.page kind).layers.error = some notice ∨
            ∃ u u', Relation.ReflTransGen (Step Event.EndsNothing) w u ∧
              (u.page kind).layers.error = some notice ∧ Step Event.EndsNothing u u' ∧
              Dismisses kind u u' ∧ Relation.ReflTransGen (Step Event.EndsNothing) u' w' := by
  refine ⟨fun event entry hentry hlevel => ?_, fun event kind notice hc ha hr => ?_,
    fun kind notice he => ⟨fun key hactive hk => ?_, fun w' hs => h.error_steps hs he⟩⟩
  · cases ha : w.board.addressee event with
    | none =>
      cases event with
      | resize width height => cases hentry
      | _ => cases ha
    | some kind =>
      obtain ⟨notice, hr, -⟩ | hsilent := Board.handle_alarms ha
      · exact ⟨kind, notice, rfl, hr⟩
      · exact absurd hlevel (hsilent entry hentry)
  · exact ⟨h.error_eq_none hc hr, Board.handle_reports ha hr⟩
  · subst hactive
    refine ⟨key, hk, rfl, board_handle w _, ?_⟩
    rw [page, board_handle]
    exact Board.page_handle_dismiss hk (Option.isSome_iff_exists.mpr ⟨notice, he⟩)

def choosing : World := (World.start {} .empty).keys [.enter, .down]

def enter : Event := .key ⟨.enter, false, false, false⟩

theorem missing_container_is_reported :
    (choosing.page .containers).layers.error = none ∧
      (choosing.board.handle enter).Reports .containers
        ⟨none, "there is no container to display diff"⟩ := by
  have hr : Reachable Event.EndsNothing {} .empty choosing := Reachable.start.keys _
  have hf : (choosing.page .containers).Faces (.commands ⟨.containers, 1⟩) :=
    ⟨by decide +kernel, by decide +kernel⟩
  have hn : Command.find? .containers "diff" = some Command.forContainers[1] := by decide +kernel
  have hsel : (choosing.page .containers).selection = none := by decide +kernel
  have hraise : (choosing.page .containers).Raises .containers enter
      ⟨none, "there is no container to display diff"⟩ := .refused rfl hf rfl hn rfl hsel
  obtain ⟨-, hreports, -⟩ := errors_stay_until_dismissed hr
  exact hreports enter .containers _ (.key _) (by decide +kernel) hraise

end Deckhand.World
