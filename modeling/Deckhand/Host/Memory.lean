import Deckhand.FirstMatch
import Deckhand.Operation

namespace Deckhand

structure MemoryHost where
  rows : Tables
  calls : List Operation := []
  listed : List Kind := []
  failingLists : List Kind := []
  /-- Messages with which calls fail, by verb. -/
  failures : List (String × String) := []
  /-- Errors that calls with several targets report, by verb. -/
  batchErrors : List (String × List String) := []
  made : Nat := 0
deriving Inhabited

namespace MemoryHost

def name : String := "fake"

def empty : MemoryHost := { rows := .empty }

def container (id name image status : String) : Row :=
  ⟨id, name, [id, image, "", "2 hours ago", status, name, ""]⟩

def image (repository tag id : String) : Row :=
  ⟨id, repository ++ ":" ++ tag, [repository, tag, id, "2 weeks ago", "142MB"]⟩

def demoRows : Tables where
  containers := [
    container "3f1c2a9be0d1" "web" "docker.io/library/nginx:latest" "Up 2 hours",
    container "9ad04e7c55b2" "cache" "docker.io/library/redis:7" "Up 2 hours",
    container "c71b3e0f8a64" "migrate" "localhost/app:dev" "Exited (0) 1 hour ago"]
  pods := [
    ⟨"5e2d7a1c9f30", "backend",
      ["5e2d7a1c9f30", "backend", "Running", "3 hours ago", "b8e1f07c2d44", "3"]⟩]
  images := [
    image "docker.io/library/nginx" "latest" "a6bd71f48f68",
    image "docker.io/library/redis" "7" "e40e2763392d",
    image "localhost/app" "dev" "77c1e8f0b1aa"]
  networks := [
    ⟨"podman", "podman", ["2f259bab93aa", "podman", "bridge"]⟩,
    ⟨"backend", "backend", ["c0ffee42d00d", "backend", "bridge"]⟩]
  volumes := [
    ⟨"pgdata", "pgdata",
      ["local", "pgdata", "2 days ago", "/var/lib/containers/storage/volumes/pgdata/_data"]⟩]

def demo : MemoryHost := { rows := demoRows }

/-- The id of the `n`-th resource that is made: twelve hexadecimal digits. The factor is odd, so
that ids do not repeat. -/
def madeId (n : Nat) : String :=
  let digits := Nat.toDigits 16 ((n + 1) * 0x9e3779b97f4b % Nat.pow 2 48)
  String.ofList (List.replicate (12 - digits.length) '0' ++ digits)

def list (host : MemoryHost) (kind : Kind) : Except Failure (List Row) × MemoryHost :=
  let answer : Except Failure (List Row) :=
    if kind ∈ host.failingLists then
      .error (.host ("cannot list " ++ kind.title ++ ": connection refused"))
    else .ok (host.rows.get kind)
  (answer, { host with listed := host.listed ++ [kind] })

def modifyRows (host : MemoryHost) (kind : Kind) (f : List Row → List Row) : MemoryHost :=
  { host with rows := host.rows.modify kind f }

def append (host : MemoryHost) (kind : Kind) (row : Row) : MemoryHost :=
  { host.modifyRows kind (· ++ [row]) with made := host.made + 1 }

def inspectText (row : Row) : String :=
  Json.pretty (.object [
    ("Fields", .array (row.cells.map .string)),
    ("Id", .string row.id),
    ("Name", .string row.name)])

def topReport : Report where
  headers := ["USER", "PID", "PPID", "%CPU", "ELAPSED", "COMMAND"]
  rows := [["root", "1", "0", "0.000", "2h0m", "/init"]]

def historyReport (id : String) : Report where
  headers := ["ID", "CREATED", "CREATED BY", "SIZE", "COMMENT"]
  rows := [[id, "2 weeks ago", "/bin/sh -c #(nop) CMD", "0B", ""]]

def searchReport (term : String) : Report where
  headers := ["INDEX", "NAME", "DESCRIPTION", "STARS", "OFFICIAL"]
  rows := [["docker.io", "docker.io/library/" ++ term, "Official build", "1000", "[OK]"]]

def statsReport (ids : List String) : Report where
  headers := ["ID", "CPU %", "MEM USAGE / LIMIT", "NET IO", "PIDS"]
  rows := ids.map fun id => [id, "0.42%", "12.1MB / 2GB", "1.2kB / 800B", "3"]

def targetOutcome (batch : List String) (kind : Kind) (row : Row) : Verb → Outcome
  | .inspect => .text (inspectText row)
  | .diff => .lines ["C /etc", "A /etc/motd"]
  | .logs => .lines [row.name ++ " started"]
  | .port => .lines ["80/tcp -> 0.0.0.0:8080"]
  | .top => .table topReport
  | .history => .table (historyReport row.id)
  | .start | .stop | .pause | .unpause | .restart | .kill =>
    if kind = .pods then .batch batch else .done
  | .remove =>
    match kind with
    | .images => .lines ["Untagged: " ++ row.name, "Deleted: " ++ row.id]
    | .pods => .batch batch
    | .containers | .networks | .volumes => .done

def noSuch (kind : Kind) (id : String) : Failure := .host ("no such " ++ kind.noun ++ ": " ++ id)

def target (host : MemoryHost) (batch : List String) (kind : Kind) (verb : Verb) (id : String) :
    Except Failure Outcome × MemoryHost :=
  match (host.rows.get kind).find? (·.id == id) with
  | none => (.error (noSuch kind id), host)
  | some row =>
    (.ok (targetOutcome batch kind row verb),
      if verb = .remove then host.modifyRows kind (·.eraseP (·.id == id)) else host)

def renameContainer (host : MemoryHost) (id name : String) : Except Failure Outcome × MemoryHost :=
  if (host.rows.get .containers).any (·.id == id) then
    (.ok .done, host.modifyRows .containers (modifyFirst (·.id == id) ({ · with name })))
  else (.error (noSuch .containers id), host)

def pull (host : MemoryHost) (reference : String) : MemoryHost :=
  host.append .images (image reference "latest" (madeId host.made))

def create (host : MemoryHost) (spec : CreateSpec) : Except Failure Outcome × MemoryHost :=
  let id := madeId host.made
  let cells := id :: List.replicate (spec.kind.headers.length - 1) ""
  (.ok (.created id), host.append spec.kind ⟨id, spec.name, cells⟩)

def perform (host : MemoryHost) (operation : Operation) : Except Failure Outcome × MemoryHost :=
  let batch := (host.batchErrors.lookup operation.verb).getD []
  match operation with
  | .target kind verb id => host.target batch kind verb id
  | .prune _ => (.ok (.batch batch), host)
  | .rename id name => host.renameContainer id name
  | .tag _ _ | .untag _ _ => (.ok .done, host)
  | .exec _ command => (.ok (.lines ["$ " ++ " ".intercalate command, "ok"]), host)
  | .search term => (.ok (.table (searchReport term)), host)
  | .pull image => (.ok .done, host.pull image)
  | .create spec => host.create spec
  | .stats _ ids => (.ok (.table (statsReport ids)), host)

def execute (host : MemoryHost) (operation : Operation) : Except Failure Outcome × MemoryHost :=
  let host := { host with calls := host.calls ++ [operation] }
  match host.failures.lookup operation.verb with
  | some message => (.error (.host message), host)
  | none => host.perform operation

end MemoryHost

end Deckhand
