import Deckhand.Failure
import Deckhand.Resource
import Deckhand.Text.Case

namespace Deckhand

inductive Verb where
  | inspect
  | diff
  | logs
  | port
  | top
  | history
  | start
  | stop
  | pause
  | unpause
  | restart
  | kill
  | remove
deriving DecidableEq, Inhabited

namespace Verb

def all : List Verb :=
  [inspect, diff, logs, port, top, history, start, stop, pause, unpause, restart, kill, remove]

def label : Verb → String
  | inspect => "inspect"
  | diff => "diff"
  | logs => "logs"
  | port => "port"
  | top => "top"
  | history => "history"
  | start => "start"
  | stop => "stop"
  | pause => "pause"
  | unpause => "unpause"
  | restart => "restart"
  | kill => "kill"
  | remove => "remove"

def ofLabel? (label : String) : Option Verb := all.find? (·.label == label)

end Verb

/-- Keys and values with the keys in increasing order and none twice. -/
abbrev Pairs := List (String × String)

def Pairs.insert (pairs : Pairs) (key value : String) : Pairs :=
  match pairs with
  | [] => [(key, value)]
  | (k, v) :: rest =>
    if key < k then (key, value) :: (k, v) :: rest
    else if key = k then (key, value) :: rest
    else (k, v) :: Pairs.insert rest key value

/-- A container to be created. An empty text leaves the choice to the host. -/
structure ContainerSpec where
  name : String := ""
  image : String := ""
  pod : String := ""
  labels : Pairs := []
  remove : Bool := false
  hostname : String := ""
  ipAddress : String := ""
  macAddress : String := ""
  network : String := ""
  publish : List String := []
  expose : List String := []
  publishAll : Bool := false
  dnsServers : List String := []
  dnsOptions : List String := []
  dnsSearch : List String := []
  volume : String := ""
  imageVolume : String := ""
deriving DecidableEq, Inhabited

structure PodSpec where
  name : String := ""
  noHosts : Bool := false
  labels : Pairs := []
  dnsServers : List String := []
  dnsOptions : List String := []
  dnsSearch : List String := []
  infra : Bool := false
  infraCommand : List String := []
  infraImage : String := ""
  hostname : String := ""
  ipAddress : String := ""
  macAddress : String := ""
  hostToIp : List String := []
  network : String := ""
deriving DecidableEq, Inhabited

structure NetworkSpec where
  name : String := ""
  labels : Pairs := []
  driver : String := ""
  internal : Bool := false
  ipv6 : Bool := false
  subnet : String := ""
  gateway : String := ""
  ipRange : String := ""
deriving DecidableEq, Inhabited

structure VolumeSpec where
  name : String := ""
  labels : Pairs := []
  driver : String := ""
  options : Pairs := []
deriving DecidableEq, Inhabited

inductive CreateSpec where
  | container (spec : ContainerSpec)
  | pod (spec : PodSpec)
  | network (spec : NetworkSpec)
  | volume (spec : VolumeSpec)
deriving DecidableEq, Inhabited

namespace CreateSpec

def kind : CreateSpec → Kind
  | container _ => .containers
  | pod _ => .pods
  | network _ => .networks
  | volume _ => .volumes

def name : CreateSpec → String
  | container spec => spec.name
  | pod spec => spec.name
  | network spec => spec.name
  | volume spec => spec.name

end CreateSpec

inductive Operation where
  | target (kind : Kind) (verb : Verb) (id : String)
  | prune (kind : Kind)
  | rename (id name : String)
  | tag (id name : String)
  | untag (id image : String)
  | exec (id : String) (command : List String)
  | search (term : String)
  | pull (image : String)
  | create (spec : CreateSpec)
  | stats (kind : Kind) (ids : List String)
deriving DecidableEq, Inhabited

structure Label where
  kind : Kind
  verb : String
  target : Option String
deriving DecidableEq, Inhabited

namespace Label

def progressTitle (label : Label) : String :=
  label.kind.noun ++ " " ++ label.verb ++ " in progress"

def errorTitle (label : Label) : String :=
  let subject := match label.target with
    | some id => " (" ++ id ++ ") "
    | none => " "
  Text.upper label.kind.noun ++ subject ++ Text.upper label.verb ++ " ERROR"

def resultTitle (label : Label) : String :=
  "podman " ++ label.kind.noun ++ " " ++ label.verb

end Label

namespace Operation

def kind : Operation → Kind
  | target kind _ _ | prune kind | stats kind _ => kind
  | rename _ _ | exec _ _ => .containers
  | tag _ _ | untag _ _ | search _ | pull _ => .images
  | create spec => spec.kind

def verb : Operation → String
  | target _ verb _ => verb.label
  | prune _ => "prune"
  | rename _ _ => "rename"
  | tag _ _ => "tag"
  | untag _ _ => "untag"
  | exec _ _ => "exec"
  | search _ => "search"
  | pull _ => "pull"
  | create _ => "create"
  | stats _ _ => "stats"

def subject : Operation → Option String
  | target _ _ id | rename id _ | tag id _ | untag id _ | exec id _ => some id
  | search term => some term
  | pull image => some image
  | prune _ | create _ | stats _ _ => none

def label (operation : Operation) : Label :=
  ⟨operation.kind, operation.verb, operation.subject⟩

end Operation

structure Report where
  headers : List String
  rows : List (List String)
deriving DecidableEq, Inhabited

inductive Outcome where
  | done
  | text (text : String)
  | lines (lines : List String)
  | table (report : Report)
  | created (id : String)
  /-- A call with several targets, and the errors of those it failed for. -/
  | batch (errors : List String)
deriving DecidableEq, Inhabited

/-- A call that failed for some of its targets has failed. -/
def Outcome.settle : Outcome → Except Failure Outcome
  | batch (error :: errors) => .error (.several (error :: errors))
  | outcome => .ok outcome

structure Choice where
  id : String
  label : String
deriving DecidableEq, Inhabited

/-- The entry that stands for no choice. -/
def Choice.nothing : Choice := ⟨"", ""⟩

structure Choices where
  images : List Choice := []
  pods : List Choice := []
  networks : List Choice := []
  volumes : List Choice := []
deriving DecidableEq, Inhabited

end Deckhand
