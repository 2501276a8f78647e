namespace Deckhand.Refresh

/-- The slot that asks for an early refresh. Any number of senders share it, so requests that come
before it is emptied count as one. -/
structure Signal where
  pending : Bool
deriving DecidableEq, Inhabited

namespace Signal

def empty : Signal := ⟨false⟩

/-- Fills the slot, and says whether it was empty. -/
def notify (signal : Signal) : Bool × Signal := (!signal.pending, ⟨true⟩)

def take (signal : Signal) : Bool × Signal := (signal.pending, ⟨false⟩)

end Signal

/-- The slot as long as somebody receives from it, and which senders are still in use. -/
structure Channel where
  signal : Option Signal
  senders : List Bool
deriving DecidableEq, Inhabited

namespace Channel

def new : Channel := ⟨some .empty, [true]⟩

def hasSender (channel : Channel) (sender : Nat) : Bool := channel.senders.getD sender false

/-- Whether the request is accepted; nothing comes of a sender that was dropped. -/
def notify (channel : Channel) (sender : Nat) : Option Bool × Channel :=
  if channel.hasSender sender then
    match channel.signal with
    | some signal =>
      let (accepted, signal) := signal.notify
      (some accepted, { channel with signal := some signal })
    | none => (some false, channel)
  else (none, channel)

def isClosed (channel : Channel) (sender : Nat) : Option Bool :=
  if channel.hasSender sender then some channel.signal.isNone else none

def clone (channel : Channel) (sender : Nat) : Option Nat × Channel :=
  if channel.hasSender sender then
    (some channel.senders.length, { channel with senders := channel.senders ++ [true] })
  else (none, channel)

def dropSender (channel : Channel) (sender : Nat) : Channel :=
  { channel with senders := channel.senders.set sender false }

def dropReceiver (channel : Channel) : Channel := { channel with signal := none }

def take (channel : Channel) : Option Bool × Channel :=
  match channel.signal with
  | some signal =>
    let (taken, signal) := signal.take
    (some taken, { channel with signal := some signal })
  | none => (none, channel)

end Channel

end Deckhand.Refresh
