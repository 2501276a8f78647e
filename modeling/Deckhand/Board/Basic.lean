import Deckhand.Board.Page
import Deckhand.Journal
import Deckhand.Settings

namespace Deckhand

inductive Notification where
  | error (message : String)
  | info (message : String)
deriving DecidableEq, Inhabited

structure Board where
  pages : PerKind Page
  active : Kind
  tables : Tables
  notification : Option Notification
  /-- Something that shows has changed since the board was last drawn. -/
  dirty : Bool
  settings : Settings
  /-- Operations and samplers are numbered from here on. -/
  nextId : Nat
deriving Inhabited

inductive Request where
  | run (kind : Kind) (id : OperationId) (operation : Operation)
  | loadChoices (kind : Kind)
  | startLive (kind : Kind) (id : OperationId) (ids : List String)
  | stopLive (kind : Kind)
  | refreshNow
  | quit
deriving DecidableEq, Inhabited

namespace Board

def new (settings : Settings) (tables : Tables) : Board where
  pages := .ofFn fun _ => .empty
  active := .containers
  tables
  notification := none
  dirty := true
  settings
  nextId := 1

def page (board : Board) (kind : Kind) : Page := board.pages.get kind

def activePage (board : Board) : Page := board.page board.active

def rows (board : Board) (kind : Kind) : List Row := board.tables.get kind

def modifyPage (board : Board) (kind : Kind) (f : Page → Page) : Board :=
  { board with pages := board.pages.modify kind f }

/-- Puts rows in the place of a table's rows. The page notices when it is reconciled. -/
def replaceRows (board : Board) (kind : Kind) (rows : List Row) : Board :=
  { board with tables := board.tables.set kind rows }

def reconcile (board : Board) (kind : Kind) : Board :=
  board.modifyPage kind (·.reconcile (board.rows kind))

def touch (board : Board) : Board := { board with dirty := true }

def notify (board : Board) (notification : Notification) : Board :=
  { board with notification := some notification }

def issueId (board : Board) : OperationId × Board :=
  (⟨board.nextId⟩, { board with nextId := board.nextId + 1 })

@[simp] theorem page_modifyPage_self (board : Board) (kind : Kind) (f : Page → Page) :
    (board.modifyPage kind f).page kind = f (board.page kind) := by
  simp [modifyPage, page, PerKind.modify]

theorem page_modifyPage_of_ne (board : Board) {kind other : Kind} (f : Page → Page)
    (h : other ≠ kind) : (board.modifyPage kind f).page other = board.page other := by
  simp [modifyPage, page, PerKind.modify, PerKind.get_set, h]

end Board

/-- What an event makes of the board, what it asks for, and what it leaves in the journal. -/
structure Reaction where
  board : Board
  requests : List Request := []
  journal : List Journal.Entry := []
deriving Inhabited

namespace Reaction

def quiet (board : Board) : Reaction := { board }

def andThen (first : Reaction) (next : Board → Reaction) : Reaction :=
  let second := next first.board
  ⟨second.board, first.requests ++ second.requests, first.journal ++ second.journal⟩

end Reaction

structure TableView where
  headers : List String
  rows : List (List String)
  cursor : Nat
deriving DecidableEq, Inhabited

structure View where
  tabs : List String
  active : Nat
  table : TableView
  error : Option Notice
  dialog : Option Dialog
  focus : Focus
  notification : Option Notification
deriving DecidableEq, Inhabited

def Board.view (board : Board) : View :=
  let page := board.activePage
  { tabs := Kind.all.map (·.title)
    active := board.active.index
    table := ⟨board.active.headers, (board.rows board.active).map (·.cells), page.cursor⟩
    error := page.layers.error
    dialog := page.layers.dialog
    focus := page.layers.focus
    notification := board.notification }

end Deckhand
