import Deckhand.Text.Lines

namespace Deckhand.Journal

inductive Level where
  | error
  | warning
  | info
  | debug
  | trace
deriving DecidableEq, Inhabited

namespace Level

def all : List Level := [error, warning, info, debug, trace]

def rank : Level → Nat
  | error => 0
  | warning => 1
  | info => 2
  | debug => 3
  | trace => 4

def name : Level → String
  | error => "ERROR"
  | warning => "WARN"
  | info => "INFO"
  | debug => "DEBUG"
  | trace => "TRACE"

end Level

structure Entry where
  level : Level
  text : String
deriving DecidableEq, Inhabited

namespace Entry

def error (text : String) : Entry := ⟨.error, text⟩

def warning (text : String) : Entry := ⟨.warning, text⟩

def info (text : String) : Entry := ⟨.info, text⟩

/-- How the entry is written, apart from the time of day before it. -/
def written (entry : Entry) : String := "[" ++ entry.level.name ++ "] " ++ entry.text

end Entry

structure File where
  level : Level
  entries : List Entry
deriving DecidableEq, Inhabited

namespace File

def asksForDebug (value : Option String) : Bool :=
  match value with
  | some value => value == "1" || value.map Char.toLower == "true"
  | none => false

def start (debug : Bool) (environment : Option String) : File :=
  ⟨if debug || asksForDebug environment then .debug else .info, []⟩

def keeps (file : File) (level : Level) : Bool := level.rank ≤ file.level.rank

def isDebug (file : File) : Bool := file.keeps .debug

def setLevel (file : File) (level : Level) : File := { file with level }

def write (file : File) (entry : Entry) : File :=
  if file.keeps entry.level then { file with entries := file.entries ++ [entry] } else file

def lines (file : File) : List String :=
  Text.lines (String.join (file.entries.map fun entry => entry.written ++ "\n"))

end File

end Deckhand.Journal
