import Deckhand.Operation
import Deckhand.Text.Blank

namespace Deckhand

/-- The key and the value of a word, which are what is before and after its first `=`. There is
none without an `=` or without a key. -/
def Pairs.ofWord? (word : String) : Option (String × String) :=
  match Text.splitFirst? '=' word with
  | some (key, value) => if key.isEmpty then none else some (key, value)
  | none => none

def Pairs.ofWords (field : String) : Pairs → List String → Except Failure Pairs
  | pairs, [] => .ok pairs
  | pairs, word :: words =>
    match ofWord? word with
    | some (key, value) => ofWords field (pairs.insert key value) words
    | none =>
      .error (.invalid ("invalid " ++ field ++ " entry \"" ++ word ++ "\", expected key=value"))

/-- The pairs of a text of blank-separated words; of words with the same key the last one counts.
The failure names the first word that is no pair. -/
def Pairs.parse (field text : String) : Except Failure Pairs :=
  ofWords field [] (Text.words text)

end Deckhand
