import Deckhand.Board.Events

namespace Deckhand.Refresh

def store (tables : Tables) (answers : PerKind (Except Failure (List Row))) : Tables :=
  .ofFn fun kind =>
    match answers.get kind with
    | .ok rows => rows
    | .error _ => tables.get kind

def results (answers : PerKind (Except Failure (List Row))) : List (Kind × Except Failure Unit) :=
  Kind.all.map fun kind => (kind, (answers.get kind).map fun _ => ())

/-- The tables, and the kinds whose list failed in the last round. -/
structure Refresher where
  tables : Tables
  failing : PerKind Bool

structure Round where
  refresher : Refresher
  events : List Event
  journal : List Journal.Entry

namespace Refresher

def new (tables : Tables) : Refresher := ⟨tables, .ofFn fun _ => false⟩

/-- The report on one list, which there is unless it keeps failing. -/
def report? (refresher : Refresher) (kind : Kind) :
    Except Failure (List Row) → Option Event
  | .ok _ => some (.listRefreshed kind)
  | .error failure =>
    if refresher.failing.get kind then none else some (.listFailed kind failure.message)

def entry? (refresher : Refresher) (kind : Kind) :
    Except Failure (List Row) → Option Journal.Entry
  | .ok _ => none
  | .error failure =>
    if refresher.failing.get kind then none
    else some (.warning ("RefreshActor: " ++ kind.title ++ " list failed: " ++ failure.message))

def round (refresher : Refresher) (answers : PerKind (Except Failure (List Row))) : Round where
  refresher := {
    tables := store refresher.tables answers
    failing := .ofFn fun kind => (answers.get kind).toOption.isNone }
  events := Kind.all.filterMap fun kind => refresher.report? kind (answers.get kind)
  journal := Kind.all.filterMap fun kind => refresher.entry? kind (answers.get kind)

def rounds (refresher : Refresher) :
    List (PerKind (Except Failure (List Row))) → List Event × List Tables
  | [] => ([], [])
  | answers :: rest =>
    let round := refresher.round answers
    let (events, tables) := round.refresher.rounds rest
    (round.events ++ events, refresher.tables :: tables)

end Refresher

def defaultLimit : Time.Span := ⟨5, 0⟩

end Deckhand.Refresh
