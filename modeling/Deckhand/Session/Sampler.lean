import Deckhand.Board.Events
import Deckhand.Text.Quoted

namespace Deckhand

def Outcome.quoted : Outcome → String
  | done => "Done"
  | text t => "Text(" ++ Text.quote t ++ ")"
  | lines ts => "Lines(" ++ Text.quoteAll ts ++ ")"
  | table report =>
    "Table(TableReport \x7b headers: " ++ Text.quoteAll report.headers ++ ", rows: " ++
      Text.bracketed (report.rows.map Text.quoteAll) ++ " \x7d)"
  | created id => "Created(" ++ Text.quote id ++ ")"
  | batch errors => "Batch(BatchReport \x7b errors: " ++ Text.quoteAll errors ++ " \x7d)"

structure Sampler where
  kind : Kind
  id : OperationId
  ids : List String
deriving DecidableEq, Inhabited

namespace Sampler

def limit : Time.Span := ⟨5, 0⟩

def operation (sampler : Sampler) : Operation := .stats sampler.kind sampler.ids

/-- What a sample is reported as. After a failure there are no more samples. -/
def event (sampler : Sampler) : Except Failure Outcome → Event
  | .ok (.table report) => .statsUpdated sampler.kind sampler.id report
  | .ok outcome =>
    .statsFailed sampler.kind sampler.id ("unexpected stats output: " ++ outcome.quoted)
  | .error failure => .statsFailed sampler.kind sampler.id failure.message

def isGood : Except Failure Outcome → Bool
  | .ok (.table _) => true
  | _ => false

end Sampler

end Deckhand
