import Deckhand.Proofs.Board.Sound

namespace Deckhand

def Event.isSample : Event → Bool
  | .statsUpdated _ _ _ | .statsFailed _ _ _ => true
  | _ => false

def Event.SamplesNothing (event : Event) : Prop := event.isSample = false

/-- The sampler of a kind is to be started or to be stopped. -/
def Request.switch? (kind : Kind) : Request → Option Bool
  | .startLive other _ _ => if other = kind then some true else none
  | .stopLive other => if other = kind then some false else none
  | _ => none

theorem Dialog.Edit.monitor? {key : Key} {dialog dialog' : Dialog} (he : dialog.Edit key dialog') :
    dialog'.monitor? = dialog.monitor? := by
  cases hc : dialog.closes with
  | true =>
    have hc' : dialog'.closes = true := he.closes.trans hc
    rw [monitor?_of_closes hc, monitor?_of_closes hc']
  | false =>
    obtain ⟨confirm, rfl, rfl, -⟩ := he.confirm hc
    rfl

namespace Page

def monitor? (page : Page) : Option Monitor := page.layers.dialog.bind Dialog.monitor?

/-- What a step does to the live figures of a page, with what it asks for. -/
inductive Tunes (c : Context) (page : Page) (event : Event) (page' : Page)
    (requests : List Request) : Prop
  | start {ids} : requests = [.startLive c.kind c.nextId ids] → page.monitor? = none →
      page'.monitor? = some ⟨c.kind, c.nextId, ids, none⟩ → Tunes c page event page' requests
  | stop : requests = [.stopLive c.kind] → page.monitor?.isSome = true → page'.monitor? = none →
      Tunes c page event page' requests
  | report {monitor report} : event = .statsUpdated c.kind monitor.id report →
      page.monitor? = some monitor → page'.monitor? = some { monitor with report := some report } →
      requests = [] → Tunes c page event page' requests
  | keep : (∀ request ∈ requests, ∀ kind, request.switch? kind = none) →
      page'.monitor? = page.monitor? → Tunes c page event page' requests

variable {c : Context} {page page' : Page} {event : Event} {output : Output} {kind : Kind}

theorem monitor?_eq_some {monitor : Monitor} :
    page.monitor? = some monitor ↔ page.layers.dialog = some (.stats monitor) := by
  constructor
  · intro h
    obtain ⟨dialog, hd, hm⟩ := Option.bind_eq_some_iff.mp h
    cases dialog with
    | stats shown => cases hm; exact hd
    | _ => cases hm
  · intro h
    rw [monitor?, h]
    rfl

theorem Sound.monitor?_eq_none (h : page.Sound kind) (hl : page.live = false) :
    page.monitor? = none := by
  have hm := h.live
  rw [hl] at hm
  exact Option.isNone_iff_eq_none.mp (Option.isSome_eq_false_iff.mp hm.symm)

theorem Submits.live {key : Key} {operation : Operation} {rest : Page}
    (hs : page.Submits kind key operation rest) : rest.live = page.live := by
  cases hs <;> rfl

theorem switch?_refreshNow (asked : Bool) :
    ∀ request ∈ (if asked then [Request.refreshNow] else []), ∀ kind,
      request.switch? kind = none := by
  cases asked with
  | true => intro request hr; cases List.mem_singleton.mp hr; exact fun _ => rfl
  | false => intro request hr; cases hr

theorem Step.tunes (hs : Step c page event page' output) (h : page.Sound c.kind) :
    Tunes c page event page' output.requests := by
  have h' := hs.sound h
  -- Without figures before and after there is nothing to tune.
  have hnone (hl : page.live = false) (hl' : page'.live = false) :
      page'.monitor? = page.monitor? := by
    rw [h.monitor?_eq_none hl, h'.monitor?_eq_none hl']
  have hnil : ∀ request ∈ ([] : List Request), ∀ kind, request.switch? kind = none :=
    fun _ hr => by cases hr
  have hsettle (id : OperationId) : (page.settle id).monitor? = page.monitor? := by
    obtain ⟨-, he⟩ | ⟨-, hi, hd⟩ := h.settle id
    · rw [he]
    · rw [h.monitor?_eq_none hi.live, monitor?, hd]
      rfl
  cases hs with
  | keep | refuseList | missSample _ | missFailure _ => exact .keep hnil rfl
  | quit _ => exact .keep (fun request hr _ => by cases List.mem_singleton.mp hr; rfl) rfl
  | dismiss | revisit | move | refresh | forgetCreate => exact .keep hnil rfl
  | browse _ hb =>
    have hi := h.idle_of_none hb.2
    exact .keep hnil (hnone hi.live hi.live)
  | edit hf he =>
    refine .keep hnil ?_
    rw [monitor?, monitor?, hf.2]
    exact he.monitor?
  | close hf hc =>
    have hi := h.idle_of_faces hf hc
    exact .keep hnil (hnone hi.live hi.live)
  | cancel hf =>
    refine .keep hnil ?_
    rw [monitor?, monitor?, hf.2]
    rfl
  | refuse _ hf _ _ _ _ | reject hf _ _ =>
    have hi := h.idle_of_faces hf rfl
    exact .keep hnil (hnone hi.live hi.live)
  | ask hp _ | prompt hp _ =>
    have hi := h.idle_of_picks hp
    exact .keep hnil (hnone hi.live hi.live)
  | requestCreate hp _ =>
    have hi := h.idle_of_picks hp
    exact .keep (fun request hr _ => by cases List.mem_singleton.mp hr; rfl)
      (hnone hi.live hi.live)
  | openStats hp _ => exact .start rfl (h.monitor?_eq_none (h.idle_of_picks hp).live) rfl
  | begin hsub hq =>
    have hl : page.live = false := hsub.live.symm.trans (hsub.idle h).1.live
    exact .keep (fun request hr _ => by cases List.mem_singleton.mp hr; rfl)
      (hnone hl (hsub.idle h).1.live)
  | busy hsub hq =>
    have hl : page.live = false := hsub.live.symm.trans (hsub.idle h).1.live
    exact .keep hnil (hnone hl (hsub.idle h).1.live)
  | closeStats _ hf =>
    have hm := monitor?_eq_some.mpr hf.2
    have hl : page.live = true := h.live.trans (congrArg Option.isSome hm)
    refine .stop (if_pos hl) (by rw [hm]; rfl) rfl
  | failStats hd _ =>
    have hm := monitor?_eq_some.mpr hd
    have hl : page.live = true := h.live.trans (congrArg Option.isSome hm)
    refine .stop (if_pos hl) (by rw [hm]; rfl) rfl
  | sample hd hid =>
    cases hid
    exact .report rfl (monitor?_eq_some.mpr hd) rfl rfl
  | fail => exact .keep hnil (hsettle _)
  | succeed _ | mention _ _ => exact .keep (switch?_refreshNow _) (hsettle _)
  | @present id label outcome dialog hr hn =>
    refine .keep (switch?_refreshNow _) ?_
    rw [← hsettle id, monitor?, monitor?, hn]
    exact Dialog.monitor?_of_closes (Board.resultDialog?_closes hr).1
  | openCreate _ hn _ =>
    have hi := h.idle_of_none hn
    exact .keep hnil (hnone hi.live hi.live)

end Page

namespace Board

variable {board : Board} {event : Event} {kind : Kind}

theorem handle_tunes (hs : board.Sound) (ha : board.addressee event = some kind) :
    Page.Tunes (board.context kind) (board.page kind) event ((board.handle event).board.page kind)
      (board.handle event).requests := by
  obtain ⟨notice, hstep, -⟩ := handle_step ha
  exact hstep.tunes (hs kind)

theorem handle_monitor?_of_ne (ha : board.addressee event ≠ some kind) :
    ((board.handle event).board.page kind).monitor? = (board.page kind).monitor? := by
  obtain hp | ⟨-, hp⟩ := handle_page_of_ne ha <;> rw [hp]
  rfl

theorem monitor?_of_misses {id : OperationId} (h : (board.page kind).Misses id) :
    board.monitor? kind id = none := by
  cases hm : board.monitor? kind id with
  | none => rfl
  | some monitor =>
    obtain ⟨hd, hid⟩ := monitor?_eq_some hm
    exact absurd hid (h monitor hd)

theorem handle_statsUpdated_of_misses {id : OperationId} (report : Report)
    (h : (board.page kind).Misses id) :
    board.handle (.statsUpdated kind id report) = .quiet board := by
  rw [handle, updateStats, monitor?_of_misses h]

theorem handle_statsFailed_of_misses {id : OperationId} (error : String)
    (h : (board.page kind).Misses id) :
    board.handle (.statsFailed kind id error) = .quiet board := by
  rw [handle, failStats, monitor?_of_misses h]

end Board

end Deckhand
