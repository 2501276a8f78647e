import Deckhand.Settings

namespace Deckhand

structure Options where
  debug : Bool := false
  demo : Bool := false
  /-- In milliseconds. -/
  refreshInterval : Option Nat := none
  connection : Option String := none
deriving DecidableEq, Inhabited

inductive UsageError where
  | unknown (argument : String)
  | missingValue (option : String)
  | notANumber (text : String)
deriving DecidableEq, Inhabited

def UsageError.message : UsageError → String
  | unknown argument => "unexpected argument '" ++ argument ++ "'"
  | missingValue option => "a value is required for '" ++ option ++ "'"
  | notANumber text => "invalid number of milliseconds '" ++ text ++ "'"

namespace Options

def read (options : Options) : List String → Except UsageError Options
  | [] => .ok options
  | "-d" :: rest | "--debug" :: rest => read { options with debug := true } rest
  | "--demo" :: rest => read { options with demo := true } rest
  | "--refresh" :: text :: rest =>
    match text.toNat? with
    | some interval => read { options with refreshInterval := some interval } rest
    | none => .error (.notANumber text)
  | "-c" :: name :: rest | "--connection" :: name :: rest =>
    read { options with connection := some name } rest
  | argument :: _ =>
    if ["--refresh", "-c", "--connection"].contains argument then .error (.missingValue argument)
    else .error (.unknown argument)

/-- What the arguments say goes before what the settings say. -/
def override (options : Options) (settings : Settings) : Settings :=
  { settings with
    refreshInterval := options.refreshInterval.or settings.refreshInterval
    connection := options.connection.or settings.connection }

end Options

end Deckhand
