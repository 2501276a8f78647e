import Deckhand.Dialog.Layers

namespace Deckhand

structure Page where
  cursor : Nat
  /-- The resource at the cursor when the page was last brought in line with its table. -/
  selection : Option Ref
  layers : Layers
  confirmation : Option Confirmation
  inFlight : Option OperationId
  /-- A form is to be opened once its lists have arrived. -/
  pendingCreate : Bool
  live : Bool
deriving DecidableEq, Inhabited

namespace Page

def empty : Page where
  cursor := 0
  selection := none
  layers := .empty
  confirmation := none
  inFlight := none
  pendingCreate := false
  live := false

/-- Brings cursor and selection in line with the rows. -/
def reconcile (page : Page) (rows : List Row) : Page :=
  let cursor := min page.cursor (rows.length - 1)
  { page with cursor, selection := rows[cursor]?.map (·.ref) }

def down (page : Page) (rows : List Row) : Page :=
  { page with cursor := if rows.isEmpty then page.cursor else (page.cursor + 1) % rows.length }

def up (page : Page) (rows : List Row) : Page :=
  { page with
    cursor :=
      if rows.isEmpty then page.cursor
      else if page.cursor = 0 then rows.length - 1
      else page.cursor - 1 }

def display (page : Page) (dialog : Dialog) : Page :=
  { page with layers := page.layers.display dialog }

def hide (page : Page) (sort : DialogSort) : Page := { page with layers := page.layers.hide sort }

def showError (page : Page) (notice : Notice) : Page :=
  { page with layers := page.layers.showError notice }

def hasDialog (page : Page) : Bool := page.layers.dialog.isSome

@[simp] theorem reconcile_nil (page : Page) :
    page.reconcile [] = { page with cursor := 0, selection := none } := by
  simp [reconcile]

end Page

end Deckhand
