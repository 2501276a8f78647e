import Deckhand.CommandLine
import Deckhand.EscapeFilter
import Deckhand.Host.Podman.Cli
import Deckhand.Key.Notation
import Deckhand.Screen.Draw
import Deckhand.Session.Turn
import Deckhand.Settings.File

namespace Deckhand

def screenWidth : Nat := 100

def screenHeight : Nat := 30

def readStored (path : String) : IO Stored := do
  try
    pure (.file (← IO.FS.readBinFile path))
  catch
    | .noFileOrDirectory .. => pure .absent
    | _ => pure .directory

def readSettings : IO (Except Failure Settings) := do
  match ← IO.getEnv "HOME" with
  | some home => pure (Settings.load (← readStored (Settings.pathIn home)))
  | none => pure (.error .noHomeDirectory)

def showBoard (session : Session MemoryHost) : IO Unit := do
  for line in (session.board.view.draw screenWidth screenHeight).lines do
    IO.println line

def keysOf (line : String) : List Key :=
  (Text.words (String.ofList (EscapeFilter.new.passed line.toList))).filterMap Key.ofText?

partial def serve (session : Session MemoryHost) : IO Unit := do
  showBoard session
  let line ← (← IO.getStdin).getLine
  if !line.isEmpty then
    match (keysOf line).foldlM Session.turn session with
    | some session => serve session
    | none => pure ()

def fail (message : String) : IO UInt32 := do
  IO.eprintln ("Error: " ++ message)
  pure 1

/-- Without a program that can be started, only the built-in resources can be shown. -/
def start (options : Options) (settings : Settings) : IO UInt32 := do
  let settings := options.override settings
  if options.demo then
    serve (Session.new settings MemoryHost.demo).reconcileAll
    pure 0
  else
    match Podman.Cli.detect settings fun _ => false with
    | .ok _ => pure 0
    | .error failure => fail failure.message

end Deckhand

open Deckhand in
def main (args : List String) : IO UInt32 := do
  match Options.read {} args with
  | .error problem => fail problem.message
  | .ok options =>
    match ← readSettings with
    | .error failure => fail failure.message
    | .ok settings => start options settings
