import Deckhand.Operation

namespace Deckhand.Podman

def flag (name value : String) : List String := if value.isEmpty then [] else [name, value]

def flags (name : String) (values : List String) : List String := values.flatMap (flag name)

def pairFlags (name : String) (pairs : Pairs) : List String :=
  pairs.flatMap fun (key, value) => flag name (key ++ "=" ++ value)

def switch (name : String) (on : Bool) : List String := if on then [name] else []

def positional (value : String) : List String := if value.isEmpty then [] else [value]

def containerArguments (spec : ContainerSpec) : List String :=
  ["container", "create"] ++
  flag "--name" spec.name ++
  flag "--pod" spec.pod ++
  pairFlags "--label" spec.labels ++
  switch "--rm" spec.remove ++
  flag "--hostname" spec.hostname ++
  flag "--ip" spec.ipAddress ++
  flag "--mac-address" spec.macAddress ++
  flag "--network" spec.network ++
  flags "--publish" spec.publish ++
  flags "--expose" spec.expose ++
  switch "--publish-all" spec.publishAll ++
  flags "--dns" spec.dnsServers ++
  flags "--dns-option" spec.dnsOptions ++
  flags "--dns-search" spec.dnsSearch ++
  flag "--volume" spec.volume ++
  flag "--image-volume" spec.imageVolume ++
  [spec.image]

/-- What concerns the infra container, which is there unless it is turned off. -/
def infraArguments (spec : PodSpec) : List String :=
  if spec.infra then
    flag "--infra-command" (" ".intercalate spec.infraCommand) ++
    flag "--infra-image" spec.infraImage
  else ["--infra=false"]

def podArguments (spec : PodSpec) : List String :=
  ["pod", "create"] ++
  flag "--name" spec.name ++
  switch "--no-hosts" spec.noHosts ++
  pairFlags "--label" spec.labels ++
  flags "--dns" spec.dnsServers ++
  flags "--dns-option" spec.dnsOptions ++
  flags "--dns-search" spec.dnsSearch ++
  infraArguments spec ++
  flag "--hostname" spec.hostname ++
  flag "--ip" spec.ipAddress ++
  flag "--mac-address" spec.macAddress ++
  flags "--add-host" spec.hostToIp ++
  flag "--network" spec.network

def networkArguments (spec : NetworkSpec) : List String :=
  ["network", "create"] ++
  pairFlags "--label" spec.labels ++
  flag "--driver" spec.driver ++
  switch "--internal" spec.internal ++
  switch "--ipv6" spec.ipv6 ++
  flag "--subnet" spec.subnet ++
  flag "--gateway" spec.gateway ++
  flag "--ip-range" spec.ipRange ++
  positional spec.name

def volumeArguments (spec : VolumeSpec) : List String :=
  ["volume", "create"] ++
  flag "--driver" spec.driver ++
  pairFlags "--label" spec.labels ++
  pairFlags "--opt" spec.options ++
  positional spec.name

def createArguments : CreateSpec → List String
  | .container spec => containerArguments spec
  | .pod spec => podArguments spec
  | .network spec => networkArguments spec
  | .volume spec => volumeArguments spec

def subcommand : Verb → String
  | .remove => "rm"
  | verb => verb.label

def columns (names : List String) : String :=
  "\t".intercalate (names.map fun name => "\x7b\x7b." ++ name ++ "\x7d\x7d")

def targetArguments (kind : Kind) (verb : Verb) (id : String) : List String :=
  match verb with
  | .history =>
    ["image", "history", "--format", columns ["ID", "Created", "CreatedBy", "Size", "Comment"], id]
  | verb => [kind.noun, subcommand verb, id]

def statsArguments (kind : Kind) (ids : List String) : List String :=
  (match kind with
  | .pods =>
    ["pod", "stats", "--no-stream", "--format", columns ["Pod", "CID", "Name", "CPU", "MemUsage"]]
  | _ =>
    ["container", "stats", "--no-stream", "--format",
      columns ["ID", "CPUPerc", "MemUsage", "NetIO", "PIDs"]]) ++ ids

def arguments : Operation → List String
  | .target kind verb id => targetArguments kind verb id
  | .prune kind => [kind.noun, "prune", "-f"]
  | .rename id name => ["container", "rename", id, name]
  | .tag id name => ["image", "tag", id, name]
  | .untag id image => ["image", "untag", id, image]
  | .exec id command => ["container", "exec", id] ++ command
  | .search term =>
    ["search", "--format", columns ["Index", "Name", "Description", "Stars", "Official"], term]
  | .pull image => ["image", "pull", image]
  | .create spec => createArguments spec
  | .stats kind ids => statsArguments kind ids

def listArguments : Kind → List String
  | .containers => ["ps", "-a", "--format", "json"]
  | .pods => ["pod", "ps", "--format", "json"]
  | .images => ["images", "--format", "json"]
  | .networks => ["network", "ls", "--format", "json"]
  | .volumes => ["volume", "ls", "--format", "json"]

end Deckhand.Podman
