import Deckhand.Operation

namespace Deckhand

inductive Destruction where
  | prune
  | remove
  | kill
deriving DecidableEq, Inhabited

namespace Destruction

def all : List Destruction := [prune, remove, kill]

def name : Destruction → String
  | prune => "prune"
  | remove => "remove"
  | kill => "kill"

def ofName? (name : String) : Option Destruction := all.find? (·.name == name)

end Destruction

inductive Purpose where
  | rename
  | tag
  | untag
  | exec
  | search
deriving DecidableEq, Inhabited

namespace Purpose

def all : List Purpose := [rename, tag, untag, exec, search]

def name : Purpose → String
  | rename => "rename"
  | tag => "tag"
  | untag => "untag"
  | exec => "exec"
  | search => "search"

def ofName? (name : String) : Option Purpose := all.find? (·.name == name)

end Purpose

inductive Action where
  | confirm (destruction : Destruction)
  | run (verb : Verb)
  | prompt (purpose : Purpose)
  | create
  | stats
deriving DecidableEq, Inhabited

def Action.name : Action → String
  | confirm destruction => "confirm " ++ destruction.name
  | run verb => "run " ++ verb.label
  | prompt purpose => "prompt " ++ purpose.name
  | create => "create"
  | stats => "stats"

/-- `phrase` completes the report that nothing is selected. -/
structure Command where
  name : String
  description : String
  needsSelection : Bool
  phrase : String
  action : Action
deriving DecidableEq, Inhabited

namespace Command

def isDestructive (command : Command) : Bool :=
  match command.action with
  | .confirm _ => true
  | _ => false

def missingSelection (command : Command) (kind : Kind) : String :=
  "there is no " ++ kind.noun ++ " to " ++ command.phrase

def onSelected (name description phrase : String) (action : Action) : Command :=
  ⟨name, description, true, phrase, action⟩

def onKind (name description : String) (action : Action) : Command :=
  ⟨name, description, false, "", action⟩

def forContainers : List Command := [
  onKind "create" "create a new container" .create,
  onSelected "diff" "inspect changes to the selected container's file systems" "display diff"
    (.run .diff),
  onSelected "exec" "execute a command in the selected container" "exec" (.prompt .exec),
  onSelected "inspect" "display the configuration of a container" "display inspect"
    (.run .inspect),
  onSelected "kill" "kill the selected running container with a SIGKILL signal" "kill"
    (.confirm .kill),
  onSelected "logs" "fetch the logs of the selected container" "display logs" (.run .logs),
  onSelected "pause" "pause all the processes in the selected container" "pause" (.run .pause),
  onSelected "port" "list port mappings for the selected container" "display port" (.run .port),
  onKind "prune" "remove all non running containers" (.confirm .prune),
  onSelected "rename" "rename the selected container" "rename" (.prompt .rename),
  onSelected "rm" "remove the selected container" "remove" (.confirm .remove),
  onSelected "start" "start the selected container" "start" (.run .start),
  onSelected "stats" "display live stream of the selected container's resource usage"
    "display stats" .stats,
  onSelected "stop" "stop the selected container" "stop" (.run .stop),
  onSelected "top" "display the running processes of the selected container" "display top"
    (.run .top),
  onSelected "unpause" "unpause the selected container that was paused before" "unpause"
    (.run .unpause)]

def forPods : List Command := [
  onKind "create" "create a new pod" .create,
  onSelected "inspect" "display information describing the selected pod" "display inspect"
    (.run .inspect),
  onSelected "kill" "send SIGKILL signal to containers in the pod" "kill" (.confirm .kill),
  onSelected "pause" "pause the selected pod" "pause" (.run .pause),
  onKind "prune" "remove all stopped pods and their containers" (.confirm .prune),
  onSelected "restart" "restart the selected pod" "restart" (.run .restart),
  onSelected "rm" "remove the selected pod" "remove" (.confirm .remove),
  onSelected "start" "start the selected pod" "start" (.run .start),
  onSelected "stats" "display live stream of the selected pod's resource usage" "display stats"
    .stats,
  onSelected "stop" "stop the selected pod" "stop" (.run .stop),
  onSelected "top" "display the running processes of the pod's containers" "display top"
    (.run .top),
  onSelected "unpause" "unpause the selected pod" "unpause" (.run .unpause)]

def forImages : List Command := [
  onSelected "diff" "inspect changes to the image's file systems" "display diff" (.run .diff),
  onSelected "history" "show history of the selected image" "display history" (.run .history),
  onSelected "inspect" "display the configuration of an image" "display inspect" (.run .inspect),
  onKind "prune" "remove all unused images" (.confirm .prune),
  onSelected "rm" "removes the selected image from local storage" "remove" (.confirm .remove),
  onKind "search/pull" "search and pull image from registry" (.prompt .search),
  onSelected "tag" "add an additional name to the selected image" "tag" (.prompt .tag),
  onSelected "untag" "remove a name from the selected image" "untag" (.prompt .untag)]

def forNetworks : List Command := [
  onKind "create" "create a podman network" .create,
  onSelected "inspect" "display the network configuration" "display inspect" (.run .inspect),
  onKind "prune" "remove all unused networks" (.confirm .prune),
  onSelected "rm" "remove the selected network" "remove" (.confirm .remove)]

def forVolumes : List Command := [
  onKind "create" "create a new volume" .create,
  onSelected "inspect" "display detailed volume's information" "display inspect" (.run .inspect),
  onKind "prune" "remove all unused volumes" (.confirm .prune),
  onSelected "rm" "remove the selected volume" "remove" (.confirm .remove)]

end Command

def catalog : Kind → List Command
  | .containers => Command.forContainers
  | .pods => Command.forPods
  | .images => Command.forImages
  | .networks => Command.forNetworks
  | .volumes => Command.forVolumes

def Command.find? (kind : Kind) (name : String) : Option Command :=
  (catalog kind).find? (·.name == name)

end Deckhand
