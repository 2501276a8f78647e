import Deckhand.Journal
import Deckhand.Operation

namespace Deckhand

/-- A row as an entry to choose, under its name or else its id. -/
def Choice.ofRow (row : Row) : Choice := ⟨row.id, if row.name.isEmpty then row.id else row.name⟩

namespace Choices

def sources : Kind → List Kind
  | .containers => [.images, .pods, .networks, .volumes]
  | .pods => [.networks]
  | .images | .networks | .volumes => []

/-- The entries from one list; a list that failed gives none. -/
def entries : Except Failure (List Row) → List Choice
  | .ok rows => rows.map .ofRow
  | .error _ => []

def ofLists (kind : Kind) (answer : Kind → Except Failure (List Row)) : Choices :=
  let offered (source : Kind) : List Choice :=
    if source ∈ sources kind then entries (answer source) else []
  ⟨offered .images, offered .pods, offered .networks, offered .volumes⟩

def warnings (kind : Kind) (answer : Kind → Except Failure (List Row)) : List Journal.Entry :=
  (sources kind).filterMap fun source =>
    match answer source with
    | .ok _ => none
    | .error failure =>
      some (.warning ("create " ++ kind.noun ++ ": " ++ source.title ++ " list unavailable: " ++
        failure.message))

end Choices

end Deckhand
