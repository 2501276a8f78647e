import Deckhand.Board.Events
import Deckhand.Create.Choices
import Deckhand.Host.Memory

namespace Deckhand

class Host (σ : Type) where
  execute : σ → Operation → Except Failure Outcome × σ
  list : σ → Kind → Except Failure (List Row) × σ

instance : Host MemoryHost where
  execute := MemoryHost.execute
  list := MemoryHost.list

def finishedEvent (kind : Kind) (id : OperationId) (operation : Operation)
    (result : Except Failure Outcome) : Event :=
  .finished kind id operation.label (result.bind Outcome.settle)

namespace Host

variable {σ : Type} [Host σ]

def listEach (host : σ) : List Kind → List (Kind × Except Failure (List Row)) × σ
  | [] => ([], host)
  | kind :: kinds =>
    let (answer, host) := Host.list host kind
    let (answers, host) := listEach host kinds
    ((kind, answer) :: answers, host)

def answerFor (answers : List (Kind × Except Failure (List Row))) (kind : Kind) :
    Except Failure (List Row) :=
  (answers.lookup kind).getD (.ok [])

def listAll (host : σ) : PerKind (Except Failure (List Row)) × σ :=
  let (answers, host) := listEach host Kind.all
  (.ofFn (answerFor answers), host)

def loadChoices (host : σ) (kind : Kind) : Choices × List Journal.Entry × σ :=
  let (answers, host) := listEach host (Choices.sources kind)
  (.ofLists kind (answerFor answers), Choices.warnings kind (answerFor answers), host)

end Host

end Deckhand
