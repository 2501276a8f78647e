import Deckhand.Proofs.World.Basic
import Deckhand.Session.Turn

namespace Deckhand

theorem Page.Step.length_requests {c : Context} {page page' : Page} {event : Event}
    {output : Output} (hs : Step c page event page' output) : output.requests.length ≤ 1 := by
  cases hs with
  | closeStats _ _ | failStats _ _ | succeed _ | present _ _ | mention _ _ =>
    dsimp only
    split <;> simp
  | _ => simp

theorem Board.requests_eq (board : Board) (event : Event) :
    (board.handle event).requests = [] ∨
      ∃ request, (board.handle event).requests = [request] := by
  cases ha : board.addressee event with
  | none => exact .inl (requests_of_addressee_eq_none ha)
  | some kind =>
    obtain ⟨notice, hs, -⟩ := handle_step ha
    have hl := hs.length_requests
    rcases hr : (board.handle event).requests with _ | ⟨request, requests⟩
    · exact .inl rfl
    · rw [hr] at hl
      have hn : requests = [] := List.length_eq_zero_iff.mp (by simpa using hl)
      exact .inr ⟨request, by rw [hn]⟩

theorem Actor.sampler_note (actor : Actor) (result : Except Failure Outcome) :
    (actor.note result).sampler = actor.sampler := by
  unfold note
  split <;> rfl

namespace World

def sampler? (w : World) (kind : Kind) : Option Sampler :=
  (w.live.get kind).bind fun i => w.actors[i]?.map (·.sampler)

variable {w w' : World} {kind other : Kind}

theorem sampler_modify (actors : List Actor) {f : Actor → Actor}
    (hf : ∀ actor, (f actor).sampler = actor.sampler) (i j : Nat) :
    (actors.modify i f)[j]?.map (·.sampler) = actors[j]?.map (·.sampler) := by
  rw [List.getElem?_modify]
  cases actors[j]? with
  | none => rfl
  | some actor =>
    simp only [Option.map_eq_map, Option.map_some]
    split
    · rw [hf]
    · rfl

theorem sampler?_stop (w : World) (kind other : Kind) :
    (w.stop kind).sampler? other = if other = kind then none else w.sampler? other := by
  cases hl : w.live.get kind with
  | none =>
    rw [stop_of_vacant w kind hl]
    by_cases ho : other = kind
    · rw [if_pos ho, ho, sampler?, hl]
      rfl
    · rw [if_neg ho]
  | some i =>
    rw [stop_of_live w kind hl]
    simp only [sampler?, PerKind.get_set]
    split
    · rfl
    · congr 1
      funext j
      exact sampler_modify (f := .cancel) w.actors (fun _ => rfl) i j

theorem length_actors_stop (w : World) (kind : Kind) :
    (w.stop kind).actors.length = w.actors.length := by
  unfold stop
  split
  · exact List.length_modify ..
  · rfl

def Bounded (w : World) : Prop := ∀ kind i, w.live.get kind = some i → i < w.actors.length

theorem Bounded.stop (h : w.Bounded) (kind : Kind) : (w.stop kind).Bounded := by
  intro other i hi
  rw [length_actors_stop]
  refine h other i ?_
  unfold World.stop at hi
  split at hi
  · simp only [PerKind.get_set] at hi
    split at hi
    · cases hi
    · exact hi
  · exact hi

theorem Bounded.spawn (h : w.Bounded) (sampler : Sampler) : (w.spawn sampler).Bounded := by
  intro other i hi
  simp only [World.spawn, PerKind.get_set, List.length_append, length_actors_stop] at hi ⊢
  split at hi
  · cases hi
    simp
  · have hlt := (h.stop sampler.kind) other i hi
    rw [length_actors_stop] at hlt
    exact Nat.lt_succ_of_lt hlt

theorem sampler?_spawn (h : w.Bounded) (sampler : Sampler) (other : Kind) :
    (w.spawn sampler).sampler? other =
      if other = sampler.kind then some sampler else w.sampler? other := by
  have hlast : ((w.stop sampler.kind).actors ++ [({ sampler } : Actor)])[w.actors.length]? =
      some { sampler } := by
    rw [← length_actors_stop w sampler.kind]
    exact List.getElem?_concat_length
  simp only [World.spawn, sampler?, PerKind.get_set]
  split
  · rw [Option.bind_some, hlast]
    rfl
  · rename_i ho
    have hs := sampler?_stop w sampler.kind other
    rw [if_neg ho] at hs
    unfold sampler? at hs
    rw [← hs]
    cases hl : (w.stop sampler.kind).live.get other with
    | none => rfl
    | some i =>
      have hlt := (h.stop sampler.kind) other i hl
      rw [Option.bind_some, Option.bind_some, List.getElem?_append_left hlt]

theorem getElem?_actors_spawn (w : World) (sampler : Sampler) :
    (w.spawn sampler).actors[w.actors.length]? = some { sampler } := by
  simp only [World.spawn]
  rw [← length_actors_stop w sampler.kind]
  exact List.getElem?_concat_length

end World

namespace Session

variable {σ : Type} [Host σ]

structure Matches (s : Session σ) (w : World) : Prop where
  board : w.board = s.board
  running : w.running = []
  loading : w.loading = []
  mail : w.mail.Perm s.queue
  live : ∀ kind, w.sampler? kind = s.live.get kind
  bounded : w.Bounded

variable {stray : Event → Prop} {settings : Settings} {tables : Tables}
variable {s s' : Session σ} {w : World} {event : Event}

theorem matches_new (settings : Settings) (host : σ) :
    (Session.new settings host).Matches
      (.start settings (Refresh.store .empty (Host.listAll host).1)) := by
  refine ⟨rfl, rfl, rfl, .refl _, fun kind => ?_, fun kind i hi => ?_⟩
  · cases kind <;> rfl
  · cases kind <;> cases hi

theorem Matches.perform (hm : s.Matches w) (request : Request)
    (hr : World.Reachable stray settings tables (w.perform request)) :
    ∃ w', World.Reachable stray settings tables w' ∧ (s.perform request).Matches w' := by
  obtain ⟨hboard, hrunning, hloading, hmail, hlive, hbounded⟩ := hm
  have hsent (event : Event) : (event :: w.mail).Perm (s.queue ++ [event]) :=
    (hmail.cons event).trans (List.perm_append_singleton event s.queue).symm
  cases request with
  | run kind id operation =>
    have hcall : (w.perform (.run kind id operation)).running.Perm [⟨kind, id, operation⟩] := by
      simp only [World.perform, hrunning]
      exact .refl _
    exact ⟨_, hr.next (.finish ((Host.execute s.host operation).1.bind Outcome.settle) hcall),
      hboard, rfl, hloading, hsent _, hlive, hbounded⟩
  | loadChoices kind =>
    have hload : (w.perform (.loadChoices kind)).loading.Perm [kind] := by
      simp only [World.perform, hloading]
      exact .refl _
    exact ⟨_, hr.next (.load (Host.loadChoices s.host kind).1 hload),
      hboard, hrunning, rfl, hsent _, hlive, hbounded⟩
  | startLive kind id ids =>
    let w₁ : World := { w with asked := w.asked ++ [.startLive kind id ids] }
    have hstart := World.getElem?_actors_spawn w₁ ⟨kind, id, ids⟩
    refine ⟨_, hr.next (.sample (Host.execute s.host (.stats kind ids)).1 hstart rfl),
      (World.board_stop w₁ kind).trans hboard, (World.running_stop w₁ kind).trans hrunning,
      (World.loading_stop w₁ kind).trans hloading, ?_, fun other => ?_, fun other i hi => ?_⟩
    · exact (List.Perm.of_eq (congrArg (_ :: ·) (World.mail_stop w₁ kind))).trans (hsent _)
    · have hs := World.sampler?_spawn (w := w₁) hbounded ⟨kind, id, ids⟩ other
      simp only [Session.perform, Session.startLive, enqueue, PerKind.get_set, ← hlive]
      refine Eq.trans ?_ hs
      unfold World.sampler?
      congr 1
      funext j
      exact World.sampler_modify _ (fun actor => actor.sampler_note _) _ j
    · rw [List.length_modify]
      exact World.Bounded.spawn (w := w₁) hbounded ⟨kind, id, ids⟩ other i hi
  | stopLive kind =>
    let w₁ : World := { w with asked := w.asked ++ [.stopLive kind] }
    refine ⟨_, hr, (World.board_stop w₁ kind).trans hboard,
      (World.running_stop w₁ kind).trans hrunning, (World.loading_stop w₁ kind).trans hloading,
      (List.Perm.of_eq (World.mail_stop w₁ kind)).trans hmail, fun other => ?_,
      World.Bounded.stop (w := w₁) hbounded kind⟩
    have hs := World.sampler?_stop w₁ kind other
    simp only [Session.perform, PerKind.get_set, ← hlive]
    exact hs
  | refreshNow => exact ⟨_, hr, hboard, hrunning, hloading, hmail, hlive, hbounded⟩
  | quit => exact ⟨_, hr, hboard, hrunning, hloading, hmail, hlive, hbounded⟩

theorem Matches.handle (hm : s.Matches w)
    (hr : World.Reachable stray settings tables (w.handle event)) :
    ∃ w', World.Reachable stray settings tables w' ∧ (s.handle event).Matches w' := by
  obtain ⟨hboard, hrunning, hloading, hmail, hlive, hbounded⟩ := hm
  have hreacted : (({ s with board := (s.board.handle event).board } : Session σ).note
      (s.board.handle event).journal).Matches { w with board := (s.board.handle event).board } :=
    ⟨rfl, hrunning, hloading, hmail, hlive, hbounded⟩
  rw [World.handle, hboard] at hr
  unfold Session.handle react
  obtain he | ⟨request, he⟩ := s.board.requests_eq event
  · rw [he] at hr ⊢
    exact ⟨_, hr, hreacted⟩
  · rw [he] at hr ⊢
    exact hreacted.perform request hr

theorem Matches.key (hm : s.Matches w) (hr : World.Reachable stray settings tables w) (key : Key) :
    ∃ w', World.Reachable stray settings tables w' ∧ (s.handle (.key key)).Matches w' :=
  hm.handle (hr.next (.key key))

theorem Matches.settle (hm : s.Matches w) (hr : World.Reachable stray settings tables w) :
    ∃ w', World.Reachable stray settings tables w' ∧ s.settle.2.Matches w' := by
  unfold Session.settle
  split
  · exact ⟨w, hr, hm⟩
  · rename_i event queue hq
    obtain ⟨hboard, hrunning, hloading, hmail, hlive, hbounded⟩ := hm
    have hrest : ({ s with queue } : Session σ).Matches { w with mail := queue } :=
      ⟨hboard, hrunning, hloading, .refl _, hlive, hbounded⟩
    rw [hq] at hmail
    exact hrest.handle (hr.next (.deliver hmail))

theorem Matches.settleAll (hm : s.Matches w) (hr : World.Reachable stray settings tables w)
    (count : Nat) :
    ∃ w', World.Reachable stray settings tables w' ∧ (s.settleAll count).Matches w' := by
  induction count generalizing s w with
  | zero => exact ⟨w, hr, hm⟩
  | succ count ih =>
    unfold Session.settleAll
    split
    · exact ⟨w, hr, hm⟩
    · obtain ⟨w', hr', hm'⟩ := hm.settle hr
      exact ih hm' hr'

theorem Matches.stray_event (hm : s.Matches w) (hr : World.Reachable stray settings tables w)
    (he : stray event) :
    ∃ w', World.Reachable stray settings tables w' ∧ (s.handle event).Matches w' :=
  hm.handle ((hr.next (.send he)).next (.deliver (.refl _)))

theorem reachable_tables (hr : World.Reachable stray settings tables w) (rows : Tables) :
    World.Reachable stray settings tables { w with board := { w.board with tables := rows } } :=
  ((((hr.next (.store .containers (rows.get .containers))).next
    (.store .pods (rows.get .pods))).next
    (.store .images (rows.get .images))).next
    (.store .networks (rows.get .networks))).next
    (.store .volumes (rows.get .volumes))

structure ReportsLists (stray : Event → Prop) : Prop where
  refreshed : ∀ kind, stray (.listRefreshed kind)
  failed : ∀ kind error, stray (.listFailed kind error)

theorem Matches.reports (hm : s.Matches w) (hr : World.Reachable stray settings tables w)
    (hs : ReportsLists stray) (results : List (Kind × Except Failure Unit)) :
    ∃ w', World.Reachable stray settings tables w' ∧
      (results.foldl (fun session (kind, result) =>
        session.handle (match result with
          | .ok () => .listRefreshed kind
          | .error failure => .listFailed kind failure.message)) s).Matches w' := by
  induction results generalizing s w with
  | nil => exact ⟨w, hr, hm⟩
  | cons report results ih =>
    obtain ⟨kind, result⟩ := report
    have he : stray (match result with
        | .ok () => .listRefreshed kind
        | .error failure => .listFailed kind failure.message) := by
      cases result with
      | ok _ => exact hs.refreshed kind
      | error failure => exact hs.failed kind failure.message
    obtain ⟨w', hr', hm'⟩ := hm.stray_event hr he
    exact ih hm' hr'

theorem Matches.refreshAndReport (hm : s.Matches w)
    (hr : World.Reachable stray settings tables w) (hs : ReportsLists stray) :
    ∃ w', World.Reachable stray settings tables w' ∧ s.refreshAndReport.Matches w' := by
  unfold Session.refreshAndReport
  refine Matches.reports ?_ (reachable_tables hr s.refresh.2.board.tables) hs _
  obtain ⟨hboard, hrunning, hloading, hmail, hlive, hbounded⟩ := hm
  exact ⟨by rw [hboard]; rfl, hrunning, hloading, hmail, hlive, hbounded⟩

theorem Matches.turn (hm : s.Matches w) (hr : World.Reachable stray settings tables w)
    (hs : ReportsLists stray) {key : Key} (ht : s.turn key = some s') :
    ∃ w', World.Reachable stray settings tables w' ∧ s'.Matches w' := by
  unfold Session.turn at ht
  dsimp only at ht
  split at ht
  · cases ht
  · cases ht
    obtain ⟨w₁, hr₁, hm₁⟩ := hm.key hr key
    obtain ⟨w₂, hr₂, hm₂⟩ := hm₁.settleAll hr₁ turnLimit
    unfold Session.refreshIfAsked
    dsimp only
    split
    · obtain ⟨hboard, hrunning, hloading, hmail, hlive, hbounded⟩ := hm₂
      exact Matches.refreshAndReport ⟨hboard, hrunning, hloading, hmail, hlive, hbounded⟩ hr₂ hs
    · exact ⟨w₂, hr₂, hm₂⟩

theorem Matches.turns (hm : s.Matches w) (hr : World.Reachable stray settings tables w)
    (hs : ReportsLists stray) {keys : List Key} (ht : keys.foldlM Session.turn s = some s') :
    ∃ w', World.Reachable stray settings tables w' ∧ s'.Matches w' := by
  induction keys generalizing s w with
  | nil =>
    cases ht
    exact ⟨w, hr, hm⟩
  | cons key keys ih =>
    obtain ⟨s₁, hfirst, hrest⟩ := Option.bind_eq_some_iff.mp ht
    obtain ⟨w₁, hr₁, hm₁⟩ := hm.turn hr hs hfirst
    exact ih hm₁ hr₁ hrest

/-- A session is a world in which the host answers at once and messages are handled in the order in
which they were sent; so what holds of every world holds of every session. -/
theorem exists_world (settings : Settings) (host : σ) (hs : ReportsLists stray) {keys : List Key}
    (ht : keys.foldlM Session.turn (Session.new settings host) = some s) :
    ∃ w, World.Reachable stray settings (Refresh.store .empty (Host.listAll host).1) w ∧
      s.Matches w :=
  (matches_new settings host).turns .start hs ht

end Session

end Deckhand
