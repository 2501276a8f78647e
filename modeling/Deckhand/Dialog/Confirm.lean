import Deckhand.Catalog

namespace Deckhand

/-- A destructive command that was picked, with the resource that was selected then. -/
structure Confirmation where
  destruction : Destruction
  target : Option Ref
deriving DecidableEq, Inhabited

structure Confirm where
  title : String
  text : String
  acceptFocused : Bool
deriving DecidableEq, Inhabited

namespace Confirm

def new (title text : String) : Confirm := ⟨title, text, false⟩

def word : Destruction → String
  | .prune => "prune"
  | .remove => "rm"
  | .kill => "kill"

def question (kind : Kind) : Destruction → String
  | .prune => "Are you sure you want to remove all unused " ++ kind.title ++ "?"
  | .remove => "Are you sure you want to remove following " ++ kind.noun ++ "?"
  | .kill => "Are you sure you want to kill following " ++ kind.noun ++ "?"

/-- The question whether a picked command is meant; it names the target if there is one. -/
def ofConfirmation (kind : Kind) (confirmation : Confirmation) : Confirm :=
  let question := question kind confirmation.destruction
  new ("podman " ++ kind.noun ++ " " ++ word confirmation.destruction)
    (match confirmation.target with
      | some target => question ++ "\n\nID: " ++ target.id ++ "\nName: " ++ target.name
      | none => question)

def toggle (confirm : Confirm) : Confirm :=
  { confirm with acceptFocused := !confirm.acceptFocused }

end Confirm

end Deckhand
