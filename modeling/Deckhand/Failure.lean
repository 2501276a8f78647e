import Deckhand.Text.Lines
import Deckhand.Time.Span

namespace Deckhand

inductive Failure where
  | io (reason : String)
  | json (reason : String)
  | settingsSyntax (reason : String)
  /-- A setting has no TOML form. -/
  | settingsRange (reason : String)
  | host (message : String)
  /-- A call failed for some of its targets, one message each. -/
  | several (messages : List String)
  | nothingSelected (message : String)
  | hostUnavailable (reason : String)
  | noHomeDirectory
  | invalid (reason : String)
  | timedOut (after : Time.Span)
  | crashed (reason : String)
deriving DecidableEq, Inhabited

namespace Failure

def message : Failure → String
  | io reason => "IO error: " ++ reason
  | json reason => "JSON error: " ++ reason
  | settingsSyntax reason => "TOML parse error: " ++ reason
  | settingsRange reason => "TOML serialize error: " ++ reason
  | host message => message
  | several messages => Text.unlines messages
  | nothingSelected message => message
  | hostUnavailable reason => "Backend not available: " ++ reason
  | noHomeDirectory => "No home directory"
  | invalid reason => "Validation error: " ++ reason
  | timedOut after => "Operation timed out after " ++ after.text
  | crashed reason => "Task join error: " ++ reason

end Failure

inductive Attempt (α : Type) where
  | answered (result : Except Failure α)
  | crashed (reason : String)
  | pending

namespace Attempt

variable {α : Type}

def within (limit : Time.Span) : Attempt α → Except Failure α
  | answered result => result
  | crashed reason => .error (.crashed reason)
  | pending => .error (.timedOut limit)

/-- The result of a call that is waited for without a limit, once there is one. -/
def waited? : Attempt α → Option (Except Failure α)
  | answered result => some result
  | crashed reason => some (.error (.crashed reason))
  | pending => none

end Attempt

end Deckhand
