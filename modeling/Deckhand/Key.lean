namespace Deckhand

inductive KeyCode where
  | char (c : Char)
  | tab
  | backTab
  | enter
  | escape
  | up
  | down
  | left
  | right
  | backspace
  | delete
  | home
  | «end»
  | pageUp
  | pageDown
  | function (n : Nat)
  | null
deriving DecidableEq, Inhabited

structure Key where
  code : KeyCode
  control : Bool := false
  alt : Bool := false
  shift : Bool := false
deriving DecidableEq, Inhabited

namespace Key

def isInterrupt (key : Key) : Bool := key.control && key.code = .char 'c'

def isDown (key : Key) : Bool := key.code = .down || key.code = .char 'j'

def isUp (key : Key) : Bool := key.code = .up || key.code = .char 'k'

end Key

end Deckhand
