import Deckhand.Failure
import Deckhand.Settings
import Deckhand.Text.Utf8
import Deckhand.Toml.Document
import Deckhand.Toml.Printer

namespace Deckhand

inductive Stored where
  | absent
  | directory
  | file (bytes : ByteArray)

namespace Settings

def join (directory name : String) : String :=
  if directory.endsWith "/" then directory ++ name else directory ++ "/" ++ name

def directoryIn (home : String) : String := join home ".podboard"

def pathIn (home : String) : String := join (directoryIn home) "podboard.toml"

def wrongType (key : String) : Failure := .settingsSyntax ("wrong type for " ++ key)

def natural? (entries : Toml.Entries) (key : String) : Except Failure (Option Nat) :=
  match entries.lookup key with
  | none => .ok none
  | some (.value (.integer (.ofNat n))) => .ok (some n)
  | some _ => .error (wrongType key)

def text? (entries : Toml.Entries) (key : String) : Except Failure (Option String) :=
  match entries.lookup key with
  | none => .ok none
  | some (.value (.string text)) => .ok (some text)
  | some _ => .error (wrongType key)

def ofEntries (entries : Toml.Entries) : Except Failure Settings := do
  pure {
    refreshInterval := ← natural? entries "refresh_interval_ms"
    statsInterval := ← natural? entries "stats_interval_ms"
    listTimeout := ← natural? entries "list_timeout_ms"
    podmanCommand := ← text? entries "podman_command"
    connection := ← text? entries "connection"
    podInfraImage := ← text? entries "pod_infra_image" }

def parse (text : String) : Except Failure Settings :=
  match Toml.parse? text with
  | some entries => ofEntries entries
  | none => .error (.settingsSyntax "malformed")

/-- The settings in a file; none are set if there is no file. -/
def load : Stored → Except Failure Settings
  | .absent => .ok {}
  | .directory => .error (.io "is a directory")
  | .file bytes =>
    match Text.decode? bytes with
    | some text => parse text
    | none => .error (.io "stream did not contain valid UTF-8")

/-- The line for a number, which has to be a signed integer of 64 bits. -/
def naturalLine (key : String) : Option Nat → Except Failure String
  | none => .ok ""
  | some n =>
    if n < Nat.pow 2 63 then .ok (Toml.assignmentText key (toString n))
    else .error (.settingsRange (key ++ " is out of range"))

def textLine (key : String) : Option String → String
  | none => ""
  | some text => Toml.assignmentText key (Toml.stringText text)

def written (settings : Settings) : Except Failure String := do
  let refresh ← naturalLine "refresh_interval_ms" settings.refreshInterval
  let stats ← naturalLine "stats_interval_ms" settings.statsInterval
  let timeout ← naturalLine "list_timeout_ms" settings.listTimeout
  pure (refresh ++ stats ++ timeout ++ textLine "podman_command" settings.podmanCommand ++
    textLine "connection" settings.connection ++
    textLine "pod_infra_image" settings.podInfraImage)

/-- What is at the path after an attempt to write there, which fails where a file has the name of a
directory on the way, or the other way round. -/
def save (settings : Settings) (underFile : Bool) (stored : Stored) :
    Except Failure Unit × Stored :=
  if underFile then (.error (.io "not a directory"), stored)
  else
    match settings.written, stored with
    | .error failure, stored => (.error failure, stored)
    | .ok _, .directory => (.error (.io "is a directory"), .directory)
    | .ok text, _ => (.ok (), .file text.toUTF8)

end Settings

end Deckhand
