import Deckhand.Refresh.Round
import Deckhand.Refresh.Signal
import Deckhand.Session.Host
import Deckhand.Session.Sampler

namespace Deckhand

structure Session (σ : Type) where
  board : Board
  host : σ
  queue : List Event := []
  live : PerKind (Option Sampler) := .ofFn fun _ => none
  signal : Refresh.Signal := .empty
  journal : List Journal.Entry := []

namespace Session

variable {σ : Type} [Host σ]

def new (settings : Settings) (host : σ) : Session σ :=
  let (answers, host) := Host.listAll host
  { board := .new settings (Refresh.store .empty answers), host }

def enqueue (session : Session σ) (event : Event) : Session σ :=
  { session with queue := session.queue ++ [event] }

def note (session : Session σ) (entries : List Journal.Entry) : Session σ :=
  { session with journal := session.journal ++ entries }

def run (session : Session σ) (kind : Kind) (id : OperationId) (operation : Operation) : Session σ :=
  let (result, host) := Host.execute session.host operation
  { session with host }.enqueue (finishedEvent kind id operation result)

def loadChoices (session : Session σ) (kind : Kind) : Session σ :=
  let (choices, entries, host) := Host.loadChoices session.host kind
  ({ session with host }.note entries).enqueue (.choicesLoaded kind choices)

def startLive (session : Session σ) (sampler : Sampler) : Session σ :=
  let (result, host) := Host.execute session.host sampler.operation
  { session with
    host
    live := session.live.set sampler.kind (some sampler)
    signal := if Sampler.isGood result then session.signal.notify.2 else session.signal }.enqueue
      (sampler.event result)

def perform (session : Session σ) : Request → Session σ
  | .run kind id operation => session.run kind id operation
  | .loadChoices kind => session.loadChoices kind
  | .startLive kind id ids => session.startLive ⟨kind, id, ids⟩
  | .stopLive kind => { session with live := session.live.set kind none }
  | .refreshNow => { session with signal := session.signal.notify.2 }
  | .quit => session

def react (session : Session σ) (reaction : Reaction) : Session σ :=
  reaction.requests.foldl perform
    ({ session with board := reaction.board }.note reaction.journal)

def handle (session : Session σ) (event : Event) : Session σ :=
  session.react (session.board.handle event)

def settle (session : Session σ) : Option Event × Session σ :=
  match session.queue with
  | [] => (none, session)
  | event :: queue => (some event, { session with queue }.handle event)

/-- Lists every kind into the tables; the pages do not know of it yet. -/
def refresh (session : Session σ) : List (Kind × Except Failure Unit) × Session σ :=
  let (answers, host) := Host.listAll session.host
  (Refresh.results answers,
    { session with
      host
      board := { session.board with tables := Refresh.store session.board.tables answers } })

def refreshAndReport (session : Session σ) : Session σ :=
  let (results, session) := session.refresh
  results.foldl (fun session (kind, result) =>
    session.handle (match result with
      | .ok () => .listRefreshed kind
      | .error failure => .listFailed kind failure.message)) session

def reconcileAll (session : Session σ) : Session σ :=
  { session with board := Kind.all.foldl Board.reconcile session.board }

def liveCount (session : Session σ) : Nat :=
  (Kind.all.filter fun kind => (session.live.get kind).isSome).length

end Session

end Deckhand
