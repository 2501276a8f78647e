import Deckhand.Proofs.Board.Sound
import Deckhand.Session.Sampler

namespace Deckhand

structure Call where
  kind : Kind
  id : OperationId
  operation : Operation

structure Actor where
  sampler : Sampler
  cancelled : Bool := false
  ended : Bool := false
  reports : List Report := []
deriving DecidableEq

namespace Actor

def isAwake (actor : Actor) : Bool := !actor.cancelled && !actor.ended

def cancel (actor : Actor) : Actor := { actor with cancelled := true }

def note (actor : Actor) (result : Except Failure Outcome) : Actor :=
  match result with
  | .ok (.table report) => { actor with reports := actor.reports ++ [report] }
  | _ => { actor with ended := true }

end Actor

/-- The board together with all that runs in the background. Calls end in any order, samplers sample
at any time, and a message that has been sent may wait for as long as it likes. -/
structure World where
  board : Board
  running : List Call := []
  loading : List Kind := []
  actors : List Actor := []
  live : PerKind (Option Nat) := .ofFn fun _ => none
  /-- What has been sent and not handled, in no order. -/
  mail : List Event := []
  asked : List Request := []

namespace World

def start (settings : Settings) (tables : Tables) : World := { board := .new settings tables }

def page (w : World) (kind : Kind) : Page := w.board.page kind

def stop (w : World) (kind : Kind) : World :=
  match w.live.get kind with
  | some i => { w with live := w.live.set kind none, actors := w.actors.modify i .cancel }
  | none => w

def spawn (w : World) (sampler : Sampler) : World :=
  { w.stop sampler.kind with
    actors := (w.stop sampler.kind).actors ++ [{ sampler }]
    live := (w.stop sampler.kind).live.set sampler.kind (some w.actors.length) }

def perform (w : World) (request : Request) : World :=
  let w := { w with asked := w.asked ++ [request] }
  match request with
  | .run kind id operation => { w with running := w.running ++ [⟨kind, id, operation⟩] }
  | .loadChoices kind => { w with loading := w.loading ++ [kind] }
  | .startLive kind id ids => w.spawn ⟨kind, id, ids⟩
  | .stopLive kind => w.stop kind
  | .refreshNow | .quit => w

def handle (w : World) (event : Event) : World :=
  (w.board.handle event).requests.foldl perform { w with board := (w.board.handle event).board }

def keys (w : World) (codes : List KeyCode) : World :=
  codes.foldl (fun w code => w.handle (.key ⟨code, false, false, false⟩)) w

/-- What can happen next. Beside the messages that answer the board, `stray` ones may come. -/
inductive Step (stray : Event → Prop) (w : World) : World → Prop
  | key (key : Key) : Step stray w (w.handle (.key key))
  | resize (width height : Nat) : Step stray w (w.handle (.resize width height))
  | deliver {event rest} : w.mail.Perm (event :: rest) →
      Step stray w ({ w with mail := rest }.handle event)
  | finish {call rest} (result : Except Failure Outcome) : w.running.Perm (call :: rest) →
      Step stray w { w with
        running := rest
        mail := .finished call.kind call.id call.operation.label result :: w.mail }
  | load {kind rest} (choices : Choices) : w.loading.Perm (kind :: rest) →
      Step stray w { w with loading := rest, mail := .choicesLoaded kind choices :: w.mail }
  | sample {i actor} (result : Except Failure Outcome) : w.actors[i]? = some actor →
      actor.isAwake = true →
      Step stray w { w with
        actors := w.actors.modify i (·.note result)
        mail := actor.sampler.event result :: w.mail }
  | store (kind : Kind) (rows : List Row) :
      Step stray w { w with board := w.board.replaceRows kind rows }
  | send {event} : stray event → Step stray w { w with mail := event :: w.mail }

inductive Reachable (stray : Event → Prop) (settings : Settings) (tables : Tables) : World → Prop
  | start : Reachable stray settings tables (start settings tables)
  | next {w w'} : Reachable stray settings tables w → Step stray w w' →
      Reachable stray settings tables w'

section

variable (w : World) (kind : Kind) (sampler : Sampler) (request : Request)

theorem stop_of_live {i : Nat} (h : w.live.get kind = some i) :
    w.stop kind = { w with
      live := w.live.set kind none, actors := w.actors.modify i .cancel } := by
  simp only [stop, h]

theorem stop_of_vacant (h : w.live.get kind = none) : w.stop kind = w := by simp only [stop, h]

theorem spawn_of_vacant (h : w.live.get sampler.kind = none) :
    w.spawn sampler = { w with
      actors := w.actors ++ [{ sampler }]
      live := w.live.set sampler.kind (some w.actors.length) } := by
  simp only [spawn, stop_of_vacant w sampler.kind h]

theorem board_stop : (w.stop kind).board = w.board := by unfold stop; split <;> rfl

theorem running_stop : (w.stop kind).running = w.running := by unfold stop; split <;> rfl

theorem loading_stop : (w.stop kind).loading = w.loading := by unfold stop; split <;> rfl

theorem mail_stop : (w.stop kind).mail = w.mail := by unfold stop; split <;> rfl

theorem asked_stop : (w.stop kind).asked = w.asked := by unfold stop; split <;> rfl

theorem board_perform : (w.perform request).board = w.board := by
  cases request with
  | startLive kind id ids => exact board_stop _ kind
  | stopLive kind => exact board_stop _ kind
  | _ => rfl

theorem mail_perform : (w.perform request).mail = w.mail := by
  cases request with
  | startLive kind id ids => exact mail_stop _ kind
  | stopLive kind => exact mail_stop _ kind
  | _ => rfl

theorem asked_perform : (w.perform request).asked = w.asked ++ [request] := by
  cases request with
  | startLive kind id ids => exact asked_stop _ kind
  | stopLive kind => exact asked_stop _ kind
  | _ => rfl

end

theorem board_performs (w : World) (requests : List Request) :
    (requests.foldl perform w).board = w.board := by
  induction requests generalizing w with
  | nil => rfl
  | cons request requests ih => rw [List.foldl_cons, ih, board_perform]

theorem mail_performs (w : World) (requests : List Request) :
    (requests.foldl perform w).mail = w.mail := by
  induction requests generalizing w with
  | nil => rfl
  | cons request requests ih => rw [List.foldl_cons, ih, mail_perform]

theorem asked_performs (w : World) (requests : List Request) :
    (requests.foldl perform w).asked = w.asked ++ requests := by
  induction requests generalizing w with
  | nil => exact (List.append_nil _).symm
  | cons request requests ih => rw [List.foldl_cons, ih, asked_perform, List.append_assoc]; rfl

@[simp] theorem board_handle (w : World) (event : Event) :
    (w.handle event).board = (w.board.handle event).board := board_performs _ _

@[simp] theorem mail_handle (w : World) (event : Event) : (w.handle event).mail = w.mail :=
  mail_performs _ _

@[simp] theorem asked_handle (w : World) (event : Event) :
    (w.handle event).asked = w.asked ++ (w.board.handle event).requests := asked_performs _ _

variable {stray : Event → Prop} {settings : Settings} {tables : Tables} {w w' : World}

theorem Step.board (h : Step stray w w') :
    (∃ event, w'.board = (w.board.handle event).board) ∨ w'.board = w.board ∨
      ∃ kind rows, w'.board = w.board.replaceRows kind rows := by
  cases h with
  | key key => exact .inl ⟨.key key, board_handle w _⟩
  | resize width height => exact .inl ⟨.resize width height, board_handle w _⟩
  | @deliver event rest hm => exact .inl ⟨event, board_handle _ _⟩
  | store kind rows => exact .inr (.inr ⟨kind, rows, rfl⟩)
  | _ => exact .inr (.inl rfl)

theorem Reachable.sound (h : Reachable stray settings tables w) : w.board.Sound := by
  induction h with
  | start => exact Board.sound_new settings tables
  | next _ hs ih =>
    obtain ⟨event, hb⟩ | hb | ⟨kind, rows, hb⟩ := hs.board
    · rw [hb]
      exact ih.handle event
    · rw [hb]
      exact ih
    · rw [hb]
      exact ih.replaceRows kind rows

theorem Reachable.keys (h : Reachable stray settings tables w) (codes : List KeyCode) :
    Reachable stray settings tables (w.keys codes) := by
  induction codes generalizing w with
  | nil => exact h
  | cons code codes ih => exact ih (h.next (.key _))

end World

end Deckhand
