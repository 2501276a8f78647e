import Deckhand.Catalog
import Deckhand.Key

namespace Deckhand

def shortId (id : String) : String := Text.take 12 id

namespace Purpose

def title : Purpose → String
  | rename => "PODMAN CONTAINER RENAME"
  | tag => "PODMAN IMAGE TAG"
  | untag => "PODMAN IMAGE UNTAG"
  | exec => "PODMAN CONTAINER EXEC"
  | search => "PODMAN IMAGE SEARCH"

def label : Purpose → String
  | rename => "new name:"
  | tag => "target:"
  | untag => "image:"
  | exec => "command:"
  | search => "search term:"

def button : Purpose → String
  | rename => "Rename"
  | tag => "Tag"
  | untag => "Untag"
  | exec => "Exec"
  | search => "Search"

end Purpose

structure Prompt where
  purpose : Purpose
  target : Option Ref
  value : String
deriving DecidableEq, Inhabited

namespace Prompt

/-- Only the prompt for a name to remove starts with a text, which is the name of the image. -/
def new (purpose : Purpose) (target : Option Ref) : Prompt where
  purpose
  target
  value :=
    match purpose, target with
    | .untag, some target => target.name
    | _, _ => ""

def title (prompt : Prompt) : String :=
  match prompt.target with
  | some target => prompt.purpose.title ++ " (" ++ shortId target.id ++ ")"
  | none => prompt.purpose.title

def push (prompt : Prompt) (c : Char) : Prompt := { prompt with value := prompt.value.push c }

def pop (prompt : Prompt) : Prompt :=
  { prompt with value := String.ofList prompt.value.toList.dropLast }

end Prompt

end Deckhand
