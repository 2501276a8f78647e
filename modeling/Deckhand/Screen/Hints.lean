import Deckhand.Dialog.Layers
import Deckhand.Screen.Paragraph

namespace Deckhand

structure KeyHint where
  key : String
  effect : String
deriving DecidableEq, Inhabited

def Focus.hints : Focus → List (List KeyHint)
  | table =>
    [[⟨"j/k", "move"⟩, ⟨"Enter", "commands"⟩], [⟨"Tab", "page"⟩, ⟨"1-5", "jump"⟩], [⟨"q", "quit"⟩]]
  | error => [[⟨"Enter", "dismiss"⟩]]
  | dialog .commands => [[⟨"j/k", "move"⟩, ⟨"Enter", "run"⟩], [⟨"Esc", "close"⟩]]
  | dialog .input => [[⟨"Enter", "submit"⟩], [⟨"Esc", "cancel"⟩]]
  | dialog .message => [[⟨"j/k", "scroll"⟩], [⟨"Esc", "close"⟩]]
  | dialog .confirm => [[⟨"Tab", "switch"⟩, ⟨"Enter", "choose"⟩], [⟨"Esc", "cancel"⟩]]
  | dialog .create =>
    [[⟨"Tab", "next"⟩, ⟨"S-Tab", "back"⟩, ⟨"Space", "toggle"⟩, ⟨"←/→", "choose"⟩],
      [⟨"Esc", "cancel"⟩]]
  | dialog .table => [[⟨"j/k", "move"⟩, ⟨"Enter", "select"⟩], [⟨"Esc", "close"⟩]]
  | dialog .stats => [[⟨"Esc", "close"⟩]]
  | dialog .progress => [[⟨"Tab", "page"⟩]]

namespace Screen

def KeyHint.line (hint : KeyHint) : Line := [⟨hint.key, .dimmed⟩, ⟨" " ++ hint.effect, .muted⟩]

/-- The hints on one line, with a dot between those of a group and a bar between groups. -/
def hintLine (focus : Focus) : Line :=
  [(⟨" │ ", .muted⟩ : Span)].intercalate
    (focus.hints.map fun group => [(⟨" • ", .muted⟩ : Span)].intercalate (group.map KeyHint.line))

def hintBar (focus : Focus) (area : Rect) : Picture := (Paragraph.ofLine (hintLine focus)).picture area

end Screen

end Deckhand
