import Deckhand.Time.Span

namespace Deckhand

/-- The times are in milliseconds. -/
structure Settings where
  refreshInterval : Option Nat := none
  statsInterval : Option Nat := none
  listTimeout : Option Nat := none
  podmanCommand : Option String := none
  connection : Option String := none
  podInfraImage : Option String := none
deriving DecidableEq, Inhabited

namespace Settings

/-- Neither lists nor figures are asked for more often than every tenth of a second. -/
def shortestInterval : Nat := 100

def refreshSpan (settings : Settings) : Time.Span :=
  .ofMilliseconds (max (settings.refreshInterval.getD 1000) shortestInterval)

def statsSpan (settings : Settings) : Time.Span :=
  .ofMilliseconds (max (settings.statsInterval.getD 1000) shortestInterval)

def timeoutSpan (settings : Settings) : Time.Span :=
  .ofMilliseconds (settings.listTimeout.getD 5000)

def podman (settings : Settings) : String := settings.podmanCommand.getD "podman"

def infraImage (settings : Settings) : String := settings.podInfraImage.getD ""

end Settings

end Deckhand
