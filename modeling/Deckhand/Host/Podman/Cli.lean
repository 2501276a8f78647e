import Deckhand.Host.Podman.Arguments
import Deckhand.Host.Podman.Rows
import Deckhand.Host.Podman.Tables
import Deckhand.Settings
import Deckhand.Text.Utf8

namespace Deckhand.Podman

inductive Ending where
  | exited (code : Nat)
  | killed (signal : Nat) (coreDumped : Bool := false)
deriving DecidableEq, Inhabited

structure Run where
  ending : Ending
  stdout : ByteArray
  stderr : ByteArray

def signalNames : List String := [
  "SIGHUP", "SIGINT", "SIGQUIT", "SIGILL", "SIGTRAP", "SIGABRT", "SIGBUS", "SIGFPE", "SIGKILL",
  "SIGUSR1", "SIGSEGV", "SIGUSR2", "SIGPIPE", "SIGALRM", "SIGTERM", "SIGSTKFLT", "SIGCHLD",
  "SIGCONT", "SIGSTOP", "SIGTSTP", "SIGTTIN", "SIGTTOU", "SIGURG", "SIGXCPU", "SIGXFSZ",
  "SIGVTALRM", "SIGPROF", "SIGWINCH", "SIGIO", "SIGPWR", "SIGSYS"]

namespace Ending

def isSuccess : Ending → Bool
  | exited code => code = 0
  | killed _ _ => false

def text : Ending → String
  | exited code => "exit status: " ++ toString code
  | killed signal coreDumped =>
    let name :=
      match signalNames[signal - 1]? with
      | some name => if signal = 0 then "" else " (" ++ name ++ ")"
      | none => ""
    "signal: " ++ toString signal ++ name ++ if coreDumped then " (core dumped)" else ""

end Ending

def dropErrorMarks (text : List Char) : List Char :=
  match text with
  | 'E' :: 'r' :: 'r' :: 'o' :: 'r' :: ':' :: ' ' :: rest => dropErrorMarks rest
  | text => text

def cleaned (text : String) : String :=
  String.ofList (dropErrorMarks (Text.trim text).toList)

namespace Run

def isSuccess (run : Run) : Bool := run.ending.isSuccess

def output (run : Run) : String := Text.decodeLossy run.stdout

def errorOutput (run : Run) : String := Text.decodeLossy run.stderr

def ended (run : Run) : Failure := .host ("podman exited with " ++ run.ending.text)

/-- The failure that a program reported, or else how it ended. -/
def failure (run : Run) : Failure :=
  let message := cleaned run.errorOutput
  if message.isEmpty then run.ended else .host message

def successful (run : Run) : Except Failure String :=
  if run.isSuccess then .ok run.output else .error run.failure

/-- The outcome of a call with several targets: each line of the error output that is not blank
stands for one that failed. -/
def batch (run : Run) : Except Failure Outcome :=
  if run.isSuccess then .ok (.batch [])
  else
    match ((Text.lines run.errorOutput).map cleaned).filter (!·.isEmpty) with
    | [] => .error run.ended
    | errors => .ok (.batch errors)

/-- What a listing holds: the items of an array, nothing, or a single item. -/
def items (run : Run) : Except Failure (List Json) := do
  let text ← run.successful
  if (Text.trim text).isEmpty then pure []
  else
    match Json.parse? text with
    | some (.array items) => pure items
    | some .null => pure []
    | some item => pure [item]
    | none => throw (.json "malformed")

end Run

def lastLine (text : String) : String := Text.trim ((Text.lines text).getLast?.getD "")

def targetOutcome (kind : Kind) (verb : Verb) (run : Run) : Except Failure Outcome :=
  match verb with
  | .inspect => run.successful.map .text
  | .diff | .logs | .port => run.successful.map (.lines <| Text.lines ·)
  | .top => run.successful.map (.table <| aligned ·)
  | .history =>
    run.successful.map (.table <| tabbed ["ID", "CREATED", "CREATED BY", "SIZE", "COMMENT"] ·)
  | .start | .stop | .pause | .unpause | .restart | .kill | .remove =>
    match kind with
    | .pods => run.batch
    | .images => run.successful.map (.lines <| Text.lines ·)
    | .containers | .networks | .volumes => run.successful.map fun _ => .done

def statsHeaders : Kind → List String
  | .pods => ["POD", "CID", "NAME", "CPU %", "MEM USAGE / LIMIT"]
  | _ => ["ID", "CPU %", "MEM USAGE / LIMIT", "NET IO", "PIDS"]

def outcome (operation : Operation) (run : Run) : Except Failure Outcome :=
  match operation with
  | .target kind verb _ => targetOutcome kind verb run
  | .prune _ => run.batch
  | .rename _ _ | .tag _ _ | .untag _ _ | .pull _ => run.successful.map fun _ => .done
  | .exec _ _ => run.successful.map (.lines <| Text.lines ·)
  | .search _ =>
    run.successful.map
      (.table <| tabbed ["INDEX", "NAME", "DESCRIPTION", "STARS", "OFFICIAL"] ·)
  | .create _ => run.successful.map (.created <| lastLine ·)
  | .stats kind _ => run.successful.map (.table <| tabbed (statsHeaders kind) ·)

def rows (kind : Kind) (run : Run) : Except Failure (List Row) :=
  run.items.map (·.map (row kind))

def version (run : Run) : String := Text.trim run.output

structure Cli where
  connection : Option String

namespace Cli

def name : String := "podman"

def detect (settings : Settings) (isProgram : String → Bool) : Except Failure Cli :=
  if isProgram settings.podman then .ok ⟨settings.connection⟩
  else .error (.hostUnavailable (settings.podman ++ ": cannot find binary path"))

/-- The full command line, which a program can be given only if there is no NUL in it. -/
def commandLine (cli : Cli) (arguments : List String) : Except Failure (List String) :=
  let line := (match cli.connection with
    | some connection => ["--connection", connection]
    | none => []) ++ arguments
  if line.any (·.toList.contains '\x00') then .error (.io "nul byte found in provided data")
  else .ok line

/-- Calls the program; `start` says what a command line leaves behind. -/
def call (cli : Cli) (start : List String → Run) (arguments : List String) : Except Failure Run :=
  (cli.commandLine arguments).map start

def execute (cli : Cli) (start : List String → Run) (operation : Operation) :
    Except Failure Outcome :=
  (cli.call start (arguments operation)).bind (outcome operation)

def list (cli : Cli) (start : List String → Run) (kind : Kind) : Except Failure (List Row) :=
  (cli.call start (listArguments kind)).bind (rows kind)

def version (cli : Cli) (start : List String → Run) : Except Failure String :=
  (cli.call start ["--version"]).map Podman.version

end Cli

end Deckhand.Podman
