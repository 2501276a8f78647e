import Deckhand.Dialog.Prompt
import Deckhand.Resource
import Deckhand.Text.Lines
import Deckhand.Time.Stamp

namespace Deckhand.Podman

/-- The text of the first of the members that is a string, a number or a truth value. -/
def field (item : Json) (keys : List String) : String :=
  (keys.findSome? fun key => (item.get? key).bind (·.scalarText?)).getD ""

def strings (item : Json) (key : String) : List String :=
  (((item.get? key).bind (·.items?)).getD []).filterMap (·.string?)

/-- A time given in seconds after 1970, or as a stamp. A text that is no stamp is kept. -/
def timeText? : Json → Option String
  | .number n => n.signed?.bind Time.secondsText?
  | .string s => some ((Time.stampText? s).getD s)
  | _ => none

def created (item : Json) (keys : List String) : String :=
  (keys.findSome? fun key => (item.get? key).bind timeText?).getD ""

def scaleSize (size : Float) : List String → Float × String
  | [] => (size, "")
  | [unit] => (size, unit)
  | unit :: units => if size ≥ 1000 then scaleSize (size / 1000) units else (size, unit)

def dropZeroPlaces : List Char → List Char
  | '.' :: '0' :: '0' :: '0' :: rest => dropZeroPlaces rest
  | c :: rest => c :: dropZeroPlaces rest
  | [] => []

/-- A number of bytes, above 999 in a larger unit and with three decimals unless they are zero. -/
def sizeText (bytes : Nat) : String :=
  if bytes < 1000 then toString bytes ++ "B"
  else
    let (size, unit) := scaleSize bytes.toUInt64.toFloat ["B", "kB", "MB", "GB", "TB"]
    let digits := Decimal.fixed 3 (.ofFloat size)
    String.ofList (dropZeroPlaces digits.toList) ++ unit

/-- The repository and the tag of a reference. What follows the last colon is the tag, unless it
holds a slash. -/
def repositoryAndTag (reference : String) : String × String :=
  match Text.splitLast? ':' reference with
  | some (repository, tag) =>
    if tag.toList.contains '/' then (reference, "<none>") else (repository, tag)
  | none => (reference, "<none>")

def port (item : Json) : String :=
  let host := field item ["host_ip"]
  (if host.isEmpty then "0.0.0.0" else host) ++ ":" ++ field item ["host_port"] ++ "->" ++
    field item ["container_port"] ++ "/" ++ field item ["protocol"]

def ports (item : Json) : String :=
  ", ".intercalate ((((item.get? "Ports").bind (·.items?)).getD []).map port)

def container (item : Json) : Row :=
  let id := field item ["Id", "ID"]
  let names := ",".intercalate (strings item "Names")
  ⟨id, names, [
    shortId id,
    field item ["Image"],
    field item ["PodName"],
    created item ["Created", "CreatedAt"],
    field item ["Status", "State"],
    names,
    ports item]⟩

def pod (item : Json) : Row :=
  let id := field item ["Id", "ID"]
  let name := field item ["Name"]
  let count := (((item.get? "Containers").bind (·.items?)).getD []).length
  ⟨id, name, [
    shortId id,
    name,
    field item ["Status"],
    created item ["Created"],
    shortId (field item ["InfraId"]),
    toString count]⟩

def image (item : Json) : Row :=
  let id := field item ["Id", "ID"]
  let reference := (strings item "Names").head?.getD "<none>:<none>"
  let (repository, tag) := repositoryAndTag reference
  ⟨id, reference, [
    repository,
    tag,
    shortId id,
    created item ["Created", "CreatedAt"],
    (((item.get? "Size").bind (·.number?)).bind (·.unsigned?)).elim "" sizeText]⟩

/-- Networks go by their names, because their ids are not stable. -/
def network (item : Json) : Row :=
  let name := field item ["name", "Name"]
  let id := field item ["id", "ID", "Id"]
  ⟨name, name, [shortId id, name, field item ["driver", "Driver"]]⟩

def volume (item : Json) : Row :=
  let name := field item ["Name"]
  ⟨name, name, [
    field item ["Driver"],
    name,
    created item ["CreatedAt"],
    field item ["Mountpoint"]]⟩

def row : Kind → Json → Row
  | .containers => container
  | .pods => pod
  | .images => image
  | .networks => network
  | .volumes => volume

end Deckhand.Podman
