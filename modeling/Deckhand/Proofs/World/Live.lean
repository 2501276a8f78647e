import Deckhand.Proofs.Board.Figures
import Deckhand.Proofs.World.Actors

namespace Deckhand

namespace World

def switches (w : World) (kind : Kind) : List Bool := w.asked.filterMap (·.switch? kind)

/-- The sampler of a page is the one for its live figures, and has sampled what they show. -/
def Tends (w : World) (kind : Kind) (monitor : Monitor) : Prop :=
  ∃ i actor, w.live.get kind = some i ∧ w.actors[i]? = some actor ∧ actor.cancelled = false ∧
    actor.sampler = ⟨kind, monitor.id, monitor.ids⟩ ∧
    ∀ report, monitor.report = some report → report ∈ actor.reports

structure Supervised (w : World) : Prop where
  tended : ∀ kind monitor, (w.page kind).monitor? = some monitor → w.Tends kind monitor
  vacant : ∀ kind, (w.page kind).monitor? = none → w.live.get kind = none
  awake : ∀ (i : Nat) (actor : Actor), w.actors[i]? = some actor → actor.cancelled = false →
    w.live.get actor.sampler.kind = some i
  numbered : Numbered w.actors w.board.nextId
  posted : ∀ event ∈ w.mail, event.isSample = true → Posted w.actors event
  alternate : ∀ kind, Alternates (w.switches kind) (w.page kind).monitor?.isSome

theorem supervised_start (settings : Settings) (tables : Tables) :
    (start settings tables).Supervised := by
  have hp (kind : Kind) : (start settings tables).page kind = .empty := PerKind.get_ofFn _ kind
  have hl (kind : Kind) : (start settings tables).live.get kind = none := PerKind.get_ofFn _ kind
  constructor
  · intro kind monitor hm
    rw [hp] at hm
    cases hm
  · intro kind _
    exact hl kind
  · intro i actor ha
    cases ha
  · constructor
    · intro i actor ha
      cases ha
    · intro i j actor other ha
      cases ha
  · intro event he
    cases he
  · intro kind
    rw [hp]
    exact ⟨List.isChain_singleton _, rfl⟩

variable {w w' : World}

def Shows (w w' : World) (kind : Kind) : Prop :=
  (w'.page kind).monitor? = (w.page kind).monitor? ∨
    ∃ monitor report, (w.page kind).monitor? = some monitor ∧
      (w'.page kind).monitor? = some { monitor with report := some report } ∧
      Posted w.actors (.statsUpdated kind monitor.id report)

theorem Shows.isSome {kind : Kind} (h : Shows w w' kind) :
    (w'.page kind).monitor?.isSome = (w.page kind).monitor?.isSome := by
  obtain he | ⟨monitor, report, hm, hm', -⟩ := h
  · rw [he]
  · rw [hm, hm']
    rfl

theorem Supervised.keep (h : w.Supervised) (hactors : w'.actors = w.actors)
    (hlive : w'.live = w.live) (hid : w.board.nextId ≤ w'.board.nextId)
    (hmail : ∀ event ∈ w'.mail, event.isSample = true → event ∈ w.mail)
    (hasked : ∀ kind, w'.switches kind = w.switches kind) (hpage : ∀ kind, Shows w w' kind) :
    w'.Supervised := by
  constructor
  · intro kind monitor' hm'
    unfold Tends
    rw [hactors, hlive]
    obtain he | ⟨monitor, report, hm, hr, hposted⟩ := hpage kind
    · exact h.tended kind monitor' (he ▸ hm')
    · cases hr.symm.trans hm'
      obtain ⟨i, actor, hl, ha, hc, hs, -⟩ := h.tended kind monitor hm
      refine ⟨i, actor, hl, ha, hc, hs, ?_⟩
      intro shown hshown
      cases hshown
      obtain ⟨j, other, ho, -, hid, hmem⟩ := hposted
      have hij : i = j := h.numbered.apart i j actor other ha ho (by rw [hs]; exact hid)
      subst hij
      cases ha.symm.trans ho
      exact hmem
  · intro kind hm'
    rw [hlive]
    apply h.vacant kind
    apply Option.isNone_iff_eq_none.mp
    rw [← Option.not_isSome, ← (hpage kind).isSome, hm']
    rfl
  · rw [hactors, hlive]
    exact h.awake
  · rw [hactors]
    exact h.numbered.mono hid
  · rw [hactors]
    exact fun event he hs => h.posted event (hmail event he hs) hs
  · intro kind
    rw [hasked, (hpage kind).isSome]
    exact h.alternate kind

theorem Supervised.switch (h : w.Supervised) {kind : Kind} {request : Request} {b : Bool}
    (hasked : w'.asked = w.asked ++ [request]) (hself : request.switch? kind = some b)
    (hnone : ∀ other, other ≠ kind → request.switch? other = none)
    (hbefore : (w.page kind).monitor?.isSome = !b) (hafter : (w'.page kind).monitor?.isSome = b)
    (hother : ∀ other, other ≠ kind → (w'.page other).monitor? = (w.page other).monitor?)
    (other : Kind) : Alternates (w'.switches other) (w'.page other).monitor?.isSome := by
  have halt := h.alternate other
  unfold switches at halt ⊢
  rw [hasked, List.filterMap_append]
  by_cases ho : other = kind
  · subst ho
    rw [hbefore] at halt
    rw [hafter, List.filterMap_cons_some hself]
    exact halt.concat
  · rw [hother other ho, List.filterMap_cons_none (hnone other ho), List.filterMap_nil,
      List.append_nil]
    exact halt

theorem Supervised.start (h : w.Supervised) {kind : Kind} {ids : List String}
    (hvacant : (w.page kind).monitor? = none)
    (hactors : w'.actors = w.actors ++ [{ sampler := ⟨kind, ⟨w.board.nextId⟩, ids⟩ }])
    (hlive : w'.live = w.live.set kind (some w.actors.length))
    (hid : w'.board.nextId = w.board.nextId + 1) (hmail : w'.mail = w.mail)
    (hasked : w'.asked = w.asked ++ [.startLive kind ⟨w.board.nextId⟩ ids])
    (hself : (w'.page kind).monitor? = some ⟨kind, ⟨w.board.nextId⟩, ids, none⟩)
    (hother : ∀ other, other ≠ kind → (w'.page other).monitor? = (w.page other).monitor?) :
    w'.Supervised := by
  constructor
  · intro other monitor hm
    unfold Tends
    rw [hactors, hlive]
    by_cases ho : other = kind
    · subst ho
      cases hself.symm.trans hm
      exact ⟨w.actors.length, _, PerKind.get_set_self _ _ _, List.getElem?_concat_length, rfl, rfl,
        fun report hr => by cases hr⟩
    · rw [hother other ho] at hm
      obtain ⟨i, actor, hl, ha, hrest⟩ := h.tended other monitor hm
      exact ⟨i, actor, by rw [PerKind.get_set, if_neg ho, hl], getElem?_append_actor ha, hrest⟩
  · intro other hm
    by_cases ho : other = kind
    · subst ho
      cases hself.symm.trans hm
    · rw [hother other ho] at hm
      rw [hlive, PerKind.get_set, if_neg ho]
      exact h.vacant other hm
  · intro i actor ha hc
    rw [hactors] at ha
    rw [hlive]
    obtain ha | ⟨rfl, rfl⟩ := getElem?_concat ha
    · have hl := h.awake i actor ha hc
      have hk : actor.sampler.kind ≠ kind := by
        intro hk
        rw [hk, h.vacant kind hvacant] at hl
        cases hl
      rw [PerKind.get_set, if_neg hk, hl]
    · exact PerKind.get_set_self _ _ _
  · rw [hactors, hid]
    exact Numbered.concat { sampler := ⟨kind, ⟨w.board.nextId⟩, ids⟩ } h.numbered
  · rw [hactors, hmail]
    exact fun event he hs => (h.posted event he hs).concat
  · exact h.switch hasked (if_pos rfl) (fun _ ho => if_neg ho.symm) (by rw [hvacant]; rfl)
      (by rw [hself]; rfl) hother

theorem Supervised.stop (h : w.Supervised) {kind : Kind} {i : Nat}
    (hi : w.live.get kind = some i) (hactors : w'.actors = w.actors.modify i .cancel)
    (hlive : w'.live = w.live.set kind none) (hid : w'.board.nextId = w.board.nextId)
    (hmail : w'.mail = w.mail) (hasked : w'.asked = w.asked ++ [.stopLive kind])
    (hshown : (w.page kind).monitor?.isSome = true) (hself : (w'.page kind).monitor? = none)
    (hother : ∀ other, other ≠ kind → (w'.page other).monitor? = (w.page other).monitor?) :
    w'.Supervised := by
  obtain ⟨monitor, hm⟩ := Option.isSome_iff_exists.mp hshown
  obtain ⟨i', stopped, hi', hs, -, hsampler, -⟩ := h.tended kind monitor hm
  cases hi.symm.trans hi'
  constructor
  · intro other shown hshows
    unfold Tends
    rw [hactors, hlive]
    by_cases ho : other = kind
    · subst ho
      cases hself.symm.trans hshows
    · rw [hother other ho] at hshows
      obtain ⟨j, actor, hl, ha, hc, hsam, hr⟩ := h.tended other shown hshows
      have hij : i ≠ j := by
        intro hij
        subst hij
        cases hs.symm.trans ha
        exact ho (congrArg Sampler.kind (hsam.symm.trans hsampler))
      refine ⟨j, actor, by rw [PerKind.get_set, if_neg ho, hl], ?_, hc, hsam, hr⟩
      rw [getElem?_modify_of_getElem? ha, if_neg hij]
  · intro other hnone
    rw [hlive, PerKind.get_set]
    split
    · rfl
    · rename_i ho
      rw [hother other ho] at hnone
      exact h.vacant other hnone
  · intro j actor' ha' hc'
    rw [hactors] at ha'
    obtain ⟨actor, ha, he⟩ := getElem?_modify_actor ha'
    by_cases hij : i = j
    · rw [he, if_pos hij] at hc'
      cases hc'
    · rw [if_neg hij] at he
      subst he
      have hl := h.awake j actor' ha hc'
      have hk : actor'.sampler.kind ≠ kind := by
        intro hk
        rw [hk, hi] at hl
        exact hij (Option.some.inj hl)
      rw [hlive, PerKind.get_set, if_neg hk, hl]
  · rw [hactors, hid]
    exact h.numbered.modify Actor.later_cancel
  · rw [hactors, hmail]
    exact fun event he hsample => (h.posted event he hsample).modify Actor.later_cancel
  · exact h.switch hasked (if_pos rfl) (fun _ ho => if_neg ho.symm) hshown (by rw [hself]; rfl)
      hother

theorem Supervised.sample (h : w.Supervised) {i : Nat} {actor : Actor}
    {result : Except Failure Outcome} (hi : w.actors[i]? = some actor)
    (hactors : w'.actors = w.actors.modify i (·.note result)) (hlive : w'.live = w.live)
    (hboard : w'.board = w.board) (hmail : w'.mail = actor.sampler.event result :: w.mail)
    (hasked : w'.asked = w.asked) : w'.Supervised := by
  have hlater (actor : Actor) : actor.Later (actor.note result) := actor.later_note result
  have hpage (kind : Kind) : w'.page kind = w.page kind := by rw [page, hboard]; rfl
  have hswitches (kind : Kind) : w'.switches kind = w.switches kind := by
    rw [switches, hasked]; rfl
  constructor
  · intro kind monitor hm
    rw [hpage] at hm
    unfold Tends
    rw [hactors, hlive]
    obtain ⟨j, other, hl, ho, hc, hs, hr⟩ := h.tended kind monitor hm
    refine ⟨j, _, hl, getElem?_modify_of_getElem? ho, ?_⟩
    split
    · rw [Actor.cancelled_note, (hlater other).sampler]
      exact ⟨hc, hs, fun report hreport => (hlater other).reports report (hr report hreport)⟩
    · exact ⟨hc, hs, hr⟩
  · intro kind hm
    rw [hpage] at hm
    rw [hlive]
    exact h.vacant kind hm
  · intro j other' ho' hc'
    rw [hactors] at ho'
    rw [hlive]
    obtain ⟨other, ho, he⟩ := getElem?_modify_actor ho'
    split at he
    · subst he
      rw [Actor.cancelled_note] at hc'
      rw [(hlater other).sampler]
      exact h.awake j other ho hc'
    · subst he
      exact h.awake j other' ho hc'
  · rw [hactors, hboard]
    exact h.numbered.modify hlater
  · rw [hactors, hmail]
    intro event he hs
    obtain rfl | he := List.mem_cons.mp he
    · exact ⟨i, _, getElem?_modify_of_getElem? hi, by rw [if_pos rfl]; exact actor.sent_note result⟩
    · exact (h.posted event he hs).modify hlater
  · intro kind
    rw [hswitches, hpage]
    exact h.alternate kind

section

variable {kind : Kind} {requests : List Request}

theorem perform_of_no_switch {request : Request} (h : ∀ kind, request.switch? kind = none) :
    (w.perform request).actors = w.actors ∧ (w.perform request).live = w.live := by
  cases request with
  | startLive kind id ids => simp [Request.switch?] at h
  | stopLive kind => simp [Request.switch?] at h
  | _ => exact ⟨rfl, rfl⟩

theorem performs_of_no_switch
    (h : ∀ request ∈ requests, ∀ kind, request.switch? kind = none) :
    (requests.foldl perform w).actors = w.actors ∧ (requests.foldl perform w).live = w.live := by
  induction requests generalizing w with
  | nil => exact ⟨rfl, rfl⟩
  | cons request requests ih =>
    obtain ⟨ha, hl⟩ := perform_of_no_switch (w := w) (h request (by simp))
    obtain ⟨hat, hlt⟩ := ih (w := w.perform request) fun other ho => h other (by simp [ho])
    rw [List.foldl_cons, hat, hlt, ha, hl]
    exact ⟨rfl, rfl⟩

theorem filterMap_switch?_eq_nil
    (h : ∀ request ∈ requests, ∀ kind, request.switch? kind = none) (kind : Kind) :
    requests.filterMap (·.switch? kind) = [] :=
  List.filterMap_eq_nil_iff.mpr fun request hr => h request hr kind

end

section

variable {event : Event} {kind : Kind} {id : OperationId} {ids : List String} {i : Nat}

theorem handle_of_no_switch
    (h : ∀ request ∈ (w.board.handle event).requests, ∀ kind, request.switch? kind = none) :
    (w.handle event).actors = w.actors ∧ (w.handle event).live = w.live ∧
      ∀ kind, (w.handle event).switches kind = w.switches kind := by
  obtain ⟨ha, hl⟩ := performs_of_no_switch (w := { w with board := (w.board.handle event).board }) h
  refine ⟨ha, hl, fun kind => ?_⟩
  rw [switches, asked_handle, List.filterMap_append, filterMap_switch?_eq_nil h, List.append_nil]
  rfl

theorem handle_of_start (hr : (w.board.handle event).requests = [.startLive kind id ids])
    (hv : w.live.get kind = none) :
    (w.handle event).actors = w.actors ++ [{ sampler := ⟨kind, id, ids⟩ }] ∧
      (w.handle event).live = w.live.set kind (some w.actors.length) := by
  let w₁ : World := { w with
    board := (w.board.handle event).board
    asked := w.asked ++ [.startLive kind id ids] }
  have hw : w.handle event = w₁.spawn ⟨kind, id, ids⟩ := by
    rw [World.handle, hr]
    rfl
  rw [hw, spawn_of_vacant w₁ ⟨kind, id, ids⟩ hv]
  exact ⟨rfl, rfl⟩

theorem handle_of_stop (hr : (w.board.handle event).requests = [.stopLive kind])
    (hi : w.live.get kind = some i) :
    (w.handle event).actors = w.actors.modify i .cancel ∧
      (w.handle event).live = w.live.set kind none := by
  let w₁ : World := { w with
    board := (w.board.handle event).board
    asked := w.asked ++ [.stopLive kind] }
  have hw : w.handle event = w₁.stop kind := by
    rw [World.handle, hr]
    rfl
  rw [hw, stop_of_live w₁ kind hi]
  exact ⟨rfl, rfl⟩

theorem handle_monitor?_of_ne (h : w.board.addressee event ≠ some kind) :
    ((w.handle event).page kind).monitor? = (w.page kind).monitor? := by
  rw [page, board_handle]
  exact Board.handle_monitor?_of_ne h

theorem nextId_handle (w : World) (event : Event) :
    (w.handle event).board.nextId =
      w.board.nextId + (w.board.handle event).requests.countP Request.isNumbered := by
  rw [board_handle, Board.handle_nextId]

theorem Supervised.handle_of_no_switch (h : w.Supervised)
    (hr : ∀ request ∈ (w.board.handle event).requests, ∀ kind, request.switch? kind = none)
    (hp : ∀ kind, Shows w (w.handle event) kind) : (w.handle event).Supervised := by
  obtain ⟨ha, hl, hs⟩ := World.handle_of_no_switch hr
  refine h.keep ha hl ?_ (fun event he _ => ?_) hs hp
  · rw [nextId_handle]
    exact Nat.le_add_right _ _
  · rw [mail_handle] at he
    exact he

theorem Supervised.handle (h : w.Supervised) (hs : w.board.Sound)
    (he : event.isSample = true → Posted w.actors event) : (w.handle event).Supervised := by
  have hmail : (w.handle event).mail = w.mail := mail_handle w event
  have hasked := asked_handle w event
  have hid := nextId_handle w event
  cases haddr : w.board.addressee event with
  | none =>
    refine h.handle_of_no_switch ?_ fun kind => .inl (handle_monitor?_of_ne ?_)
    · rw [Board.requests_of_addressee_eq_none haddr]
      exact fun _ hr => by cases hr
    · rw [haddr]
      exact fun he => by cases he
  | some kind =>
    have hother (other : Kind) (ho : other ≠ kind) :
        ((w.handle event).page other).monitor? = (w.page other).monitor? :=
      handle_monitor?_of_ne fun he => ho (Option.some.inj (he.symm.trans haddr))
    have htunes := Board.handle_tunes hs haddr
    rw [← board_handle] at htunes
    cases htunes with
    | start hr hvacant hself =>
      obtain ⟨ha, hl⟩ := handle_of_start hr (h.vacant kind hvacant)
      rw [hr] at hid hasked
      exact h.start hvacant ha hl hid hmail hasked hself hother
    | stop hr hshown hself =>
      obtain ⟨monitor, hm⟩ := Option.isSome_iff_exists.mp hshown
      obtain ⟨i, -, hi, -⟩ := h.tended kind monitor hm
      obtain ⟨ha, hl⟩ := handle_of_stop hr hi
      rw [hr] at hid hasked
      exact h.stop hi ha hl hid hmail hasked hshown hself hother
    | @report monitor report hev hm hm' hr =>
      refine h.handle_of_no_switch (by rw [hr]; exact fun _ hr => by cases hr) fun other => ?_
      by_cases ho : other = kind
      · subst ho
        have hposted := he (by rw [hev]; rfl)
        rw [hev] at hposted
        exact .inr ⟨monitor, report, hm, hm', hposted⟩
      · exact .inl (hother other ho)
    | keep hr hp =>
      refine h.handle_of_no_switch hr fun other => .inl ?_
      by_cases ho : other = kind
      · subst ho
        exact hp
      · exact hother other ho

end

variable {settings : Settings} {tables : Tables}

theorem Step.supervised (hs : Step Event.SamplesNothing w w') (h : w.Supervised)
    (hb : w.board.Sound) : w'.Supervised := by
  have hsend {event : Event} (he : event.isSample = false) :
      ∀ other ∈ event :: w.mail, other.isSample = true → other ∈ w.mail := by
    intro other ho hsample
    obtain rfl | ho := List.mem_cons.mp ho
    · rw [he] at hsample
      cases hsample
    · exact ho
  cases hs with
  | key key => exact h.handle hb fun he => by cases he
  | resize width height => exact h.handle hb fun he => by cases he
  | @deliver event rest hm =>
    have hrest : ({ w with mail := rest } : World).Supervised :=
      h.keep rfl rfl (Nat.le_refl _)
        (fun other ho _ => hm.symm.subset (List.mem_cons_of_mem event ho)) (fun _ => rfl)
        (fun _ => .inl rfl)
    exact hrest.handle hb (h.posted event (hm.symm.subset List.mem_cons_self))
  | finish result hr =>
    exact h.keep rfl rfl (Nat.le_refl _) (hsend rfl) (fun _ => rfl) (fun _ => .inl rfl)
  | load choices hl =>
    exact h.keep rfl rfl (Nat.le_refl _) (hsend rfl) (fun _ => rfl) (fun _ => .inl rfl)
  | sample result ha haw => exact h.sample ha rfl rfl rfl rfl rfl
  | store kind rows =>
    exact h.keep rfl rfl (Nat.le_refl _) (fun _ he _ => he) (fun _ => rfl) (fun _ => .inl rfl)
  | send he =>
    exact h.keep rfl rfl (Nat.le_refl _) (hsend he) (fun _ => rfl) (fun _ => .inl rfl)

theorem Reachable.supervised (h : Reachable Event.SamplesNothing settings tables w) :
    w.Supervised := by
  induction h with
  | start => exact supervised_start settings tables
  | next hr hs ih => exact hs.supervised ih hr.sound

/-- What a cancelled sampler has sent is for figures that are not shown. -/
theorem Supervised.handle_of_cancelled (h : w.Supervised) {i : Nat} {actor : Actor} {event : Event}
    (ha : w.actors[i]? = some actor) (hs : actor.Sent event) (hc : actor.cancelled = true) :
    w.board.handle event = .quiet w.board := by
  have hmiss {kind : Kind} {id : OperationId} (hid : id = actor.sampler.id) :
      (w.page kind).Misses id := by
    intro monitor hd hm
    obtain ⟨j, other, -, ho, hoc, hsampler, -⟩ :=
      h.tended kind monitor (Page.monitor?_eq_some.mpr hd)
    have hij : i = j := h.numbered.apart i j actor other ha ho (by rw [hsampler, ← hid, ← hm])
    subst hij
    cases ha.symm.trans ho
    rw [hc] at hoc
    cases hoc
  cases event with
  | statsUpdated kind id report =>
    exact Board.handle_statsUpdated_of_misses report (hmiss hs.2.1)
  | statsFailed kind id error =>
    exact Board.handle_statsFailed_of_misses error (hmiss hs.2)
  | _ => cases hs

/-- Whatever is in the mail, a page counts as live exactly while it shows live figures, and exactly
while there is a sampler for its kind, which samples for just these figures and has sampled what
they show. Starts and stops alternate, every other sampler of the kind is cancelled, and what a
cancelled sampler has sent has no effect. -/
theorem live_figures_have_their_own_sampler
    (h : Reachable Event.SamplesNothing settings tables w) (kind : Kind) :
    ((w.page kind).live = true ↔ ∃ monitor, (w.page kind).layers.dialog = some (.stats monitor)) ∧
      ((w.page kind).live = true ↔ (w.live.get kind).isSome = true) ∧
      (∀ monitor, (w.page kind).layers.dialog = some (.stats monitor) → w.Tends kind monitor) ∧
      (false :: w.switches kind).IsChain (· ≠ ·) ∧
      (∀ (i : Nat) (actor : Actor), w.actors[i]? = some actor → actor.sampler.kind = kind →
        actor.cancelled = false → w.live.get kind = some i) ∧
      ∀ event ∈ w.mail, event.isSample = true →
        ∃ (i : Nat) (actor : Actor), w.actors[i]? = some actor ∧ actor.Sent event ∧
          (actor.cancelled = true → w.board.handle event = .quiet w.board) := by
  have hsup := h.supervised
  have hlive : (w.page kind).live = (w.page kind).monitor?.isSome := (h.sound kind).live
  refine ⟨?_, ?_, ?_, (hsup.alternate kind).chain, ?_, ?_⟩
  · rw [hlive, Option.isSome_iff_exists]
    exact exists_congr fun monitor => Page.monitor?_eq_some
  · rw [hlive]
    cases hm : (w.page kind).monitor? with
    | none => simp [hsup.vacant kind hm]
    | some monitor =>
      obtain ⟨i, -, hi, -⟩ := hsup.tended kind monitor hm
      simp [hi]
  · exact fun monitor hd => hsup.tended kind monitor (Page.monitor?_eq_some.mpr hd)
  · intro i actor ha hk hc
    rw [← hk]
    exact hsup.awake i actor ha hc
  · intro event he hs
    obtain ⟨i, actor, ha, hsent⟩ := hsup.posted event he hs
    exact ⟨i, actor, ha, hsent, hsup.handle_of_cancelled ha hsent⟩

def opened : World :=
  (World.start {} ⟨[⟨"5e", "web", []⟩], [], [], [], []⟩).keys [.enter, .up, .up, .up, .up, .enter]

def lateSample : Event := .statsUpdated .containers ⟨1⟩ ⟨["cpu"], [["7%"]]⟩

def reopened : World :=
  ({ opened with
    actors := opened.actors.modify 0 (·.note (.ok (.table ⟨["cpu"], [["7%"]]⟩)))
    mail := lateSample :: opened.mail } : World).keys
      [.escape, .enter, .up, .up, .up, .up, .enter]

theorem late_sample_has_no_effect :
    (∃ monitor, (reopened.page .containers).layers.dialog = some (.stats monitor)) ∧
      reopened.board.handle lateSample = .quiet reopened.board := by
  have hr : Reachable Event.SamplesNothing {} ⟨[⟨"5e", "web", []⟩], [], [], [], []⟩ opened :=
    Reachable.start.keys _
  have ha : opened.actors[0]? = some { sampler := ⟨.containers, ⟨1⟩, ["5e"]⟩ } := by
    decide +kernel
  have hs := (hr.next (.sample (.ok (.table ⟨["cpu"], [["7%"]]⟩)) ha rfl)).keys
    [.escape, .enter, .up, .up, .up, .up, .enter]
  obtain ⟨hlive, -, -, -, -, hlate⟩ := live_figures_have_their_own_sampler hs .containers
  refine ⟨hlive.mp (by decide +kernel), ?_⟩
  obtain ⟨i, actor, hi, hsent, hquiet⟩ := hlate lateSample List.mem_cons_self rfl
  have hfirst : ∀ actor ∈ reopened.actors, actor.sampler.id = ⟨1⟩ → actor.cancelled = true := by
    decide +kernel
  exact hquiet (hfirst actor (List.mem_of_getElem? hi) hsent.2.1.symm)

end World

end Deckhand
