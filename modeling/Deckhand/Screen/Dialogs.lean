import Deckhand.Dialog.Layers
import Deckhand.Screen.Ansi
import Deckhand.Screen.Box
import Deckhand.Screen.Paragraph
import Deckhand.Screen.Table
import Deckhand.Text.Pad

namespace Deckhand.Screen

def buttonLine (labels : List String) (focused : Option Nat) : Line :=
  [({ text := "  " } : Span)].intercalate
    (labels.zipIdx.map fun (label, index) =>
      Line.styled ("[ " ++ label ++ " ]") (if focused = some index then .selected else .dimmed))

def text (lines : List Line) (area : Rect) : Picture := { lines : Paragraph }.picture area

def buttons (labels : List String) (focused : Option Nat) (area : Rect) : Picture :=
  text [buttonLine labels focused] area

def boxed (area : Rect) (width height : Nat) (title : String) (color : Color)
    (contents : Rect → Picture) : Picture :=
  let box : Box := ⟨area.centered width height, title, color⟩
  box.picture ++ contents box.inside

def report (report : Report) (selected : Option Nat) (area : Rect) : Picture :=
  Table.picture ⟨report.headers, report.rows, selected⟩ area

def pickerLines (picker : Picker) : List Line :=
  let width := Text.longest (picker.commands.map (·.name))
  picker.commands.zipIdx.map fun (command, index) =>
    [⟨Text.padEnd width command.name, if index = picker.cursor then .selected else .plain⟩,
      ⟨"  " ++ command.description, .dimmed⟩]

def picker (picker : Picker) (area : Rect) : Picture :=
  boxed area 60 (picker.commands.length + 2) (picker.kind.noun ++ " commands") .cyan
    (text (pickerLines picker))

def promptLines (prompt : Prompt) : List Line :=
  [[⟨prompt.purpose.label ++ ": ", .plain⟩, ⟨prompt.value, .inColor .white⟩,
      ⟨"_", Style.plain.adding .slowBlink⟩],
    [],
    [⟨"[ " ++ prompt.purpose.button ++ " ]", .selected⟩, ⟨"  Esc cancel", .muted⟩]]

def prompt (prompt : Prompt) (area : Rect) : Picture :=
  boxed area 60 5 prompt.title .cyan (text (promptLines prompt))

def pager (pager : Pager) (area : Rect) : Picture :=
  boxed area (area.width - 8) (area.height - 4) pager.title .cyan
    (Paragraph.picture { lines := Ansi.lines pager.text, scroll := pager.scroll })

def confirm (confirm : Confirm) (area : Rect) : Picture :=
  boxed area 60 (Text.lineCount confirm.text + 5) confirm.title .red fun inside =>
    Paragraph.picture { lines := Line.ofLines confirm.text, wraps := true } (inside.dropBottom 1) ++
      buttons ["Cancel", "Confirm"] (some (if confirm.acceptFocused then 1 else 0)) inside.lastLine

def sectionLines (form : Form) : List Line :=
  form.sections.zipIdx.map fun (part, index) =>
    Line.styled part.title
      (if index ≠ form.active then .dimmed
      else if form.focus = .sections then .selected
      else .accented)

def fieldText : FieldValue → String
  | .text text => text ++ "_"
  | .check true => "[x]"
  | .check false => "[ ]"
  | .choice options selected => "< " ++ (options[selected]?.map (·.label)).getD "" ++ " >"

def fieldLines (form : Form) : List Line :=
  let width := Text.longest (form.activeFields.map (·.label))
  form.activeFields.zipIdx.map fun (field, index) =>
    [⟨Text.padStart width field.label ++ "  ", .dimmed⟩,
      ⟨fieldText field.value, if form.focus = .field index then .selected else .plain⟩]

def focusedButton (form : Form) : Option Nat :=
  match form.focus with
  | .button index => some index
  | _ => none

def form (form : Form) (area : Rect) : Picture :=
  boxed area (min (area.width - 8) 90) (min (area.height - 2) 22) form.title .cyan fun inside =>
    let upper := inside.dropBottom 1
    text (sectionLines form) (upper.takeLeft 24) ++ text (fieldLines form) (upper.dropLeft 24) ++
      buttons Form.buttons (focusedButton form) inside.lastLine

def listing (listing : Listing) (area : Rect) : Picture :=
  boxed area (area.width - 8) (area.height - 4) listing.title .cyan
    (report listing.report
      (match listing.use with
        | .searchResults => some listing.cursor
        | .report => none))

def monitor (monitor : Monitor) (area : Rect) : Picture :=
  boxed area (area.width - 8) (area.height - 6) monitor.title .cyan
    (match monitor.report with
      | some figures => report figures none
      | none => text [Line.styled "collecting stats..." .dimmed])

def progress (progress : Progress) (area : Rect) : Picture :=
  boxed area 50 3 progress.title .gray (text [Line.styled "please wait..." .dimmed])

def dialog : Dialog → Rect → Picture
  | .commands p => picker p
  | .input p => prompt p
  | .message p => pager p
  | .confirm c => confirm c
  | .create c => form c.form
  | .table l => listing l
  | .stats m => monitor m
  | .progress p => progress p

/-- The box of an error has room for all lines of the message, if the area has. -/
def errorBox (notice : Notice) (area : Rect) : Box where
  rect := area.centered 70 (max (Text.lineCount notice.message) 1 + 4)
  title := notice.title.getD "ERROR"
  color := .red

def error (notice : Notice) (area : Rect) : Picture :=
  let box := errorBox notice area
  box.picture ++
    Paragraph.picture
        { lines := Line.ofLines notice.message, style := .inColor .red, wraps := true }
        (box.inside.dropBottom 1) ++
      buttons ["OK"] (some 0) box.inside.lastLine

end Deckhand.Screen
