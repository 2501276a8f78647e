import Deckhand.Refresh.Round
import Deckhand.Refresh.Signal

namespace Deckhand.Refresh

inductive Phase where
  | waiting
  | listing (arrived : PerKind (Option (Except Failure (List Row))))
  | stopped

/-- Keeps the tables up to date. It waits for the clock or for the signal; either starts a round, in
which all kinds are listed at the same time, and after the round it waits again. -/
structure Service where
  channel : Channel
  refresher : Refresher
  phase : Phase
  events : List Event

/-- What can happen to the service, with what a sender is told. -/
inductive Act where
  | notify (sender : Nat) (accepted : Bool)
  | clone (sender : Nat)
  | drop (sender : Nat)
  | tick
  | take
  | list (kind : Kind) (answer : Except Failure (List Row))
  | finish
  | stop

namespace Service

def new (tables : Tables) : Service := ⟨.new, .new tables, .waiting, []⟩

def startRound (service : Service) : Service :=
  { service with phase := .listing (.ofFn fun _ => none) }

/-- The service after an act, unless that cannot happen. -/
def step (service : Service) : Act → Option Service
  | .notify sender accepted =>
    match service.channel.notify sender with
    | (some answer, channel) => if answer = accepted then some { service with channel } else none
    | (none, _) => none
  | .clone sender =>
    match service.channel.clone sender with
    | (some _, channel) => some { service with channel }
    | (none, _) => none
  | .drop sender => some { service with channel := service.channel.dropSender sender }
  | .tick =>
    match service.phase with
    | .waiting => some service.startRound
    | _ => none
  | .take =>
    match service.phase, service.channel.take with
    | .waiting, (some true, channel) => some { service with channel }.startRound
    | _, _ => none
  | .list kind answer =>
    match service.phase with
    | .listing arrived =>
      match arrived.get kind with
      | none => some { service with phase := .listing (arrived.set kind (some answer)) }
      | some _ => none
    | _ => none
  | .finish =>
    match service.phase with
    | .listing arrived => do
      let round := service.refresher.round (← arrived.all?)
      some { service with
        refresher := round.refresher
        phase := .waiting
        events := service.events ++ round.events }
    | _ => none
  | .stop =>
    match service.phase with
    | .waiting =>
      some { service with channel := service.channel.dropReceiver, phase := .stopped }
    | _ => none

def run (service : Service) (acts : List Act) : Option Service := acts.foldlM step service

end Service

end Deckhand.Refresh
