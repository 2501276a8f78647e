import Deckhand.Session.Basic

namespace Deckhand.Session

variable {σ : Type} [Host σ]

def settleAll : Nat → Session σ → Session σ
  | 0, session => session
  | count + 1, session =>
    match session.queue with
    | [] => session
    | _ => settleAll count session.settle.2

def refreshIfAsked (session : Session σ) : Session σ :=
  let (asked, signal) := session.signal.take
  if asked then refreshAndReport { session with signal } else session

/-- More events than a key brings on. -/
def turnLimit : Nat := 64

def turn (session : Session σ) (key : Key) : Option (Session σ) :=
  let reaction := session.board.handle (.key key)
  if reaction.requests.contains .quit then none
  else some ((session.react reaction).settleAll turnLimit).refreshIfAsked

end Deckhand.Session
