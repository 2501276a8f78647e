import Deckhand.Operation
import Deckhand.Text.Blank

namespace Deckhand

inductive ListingUse where
  | report
  | searchResults
deriving DecidableEq, Inhabited

structure Listing where
  use : ListingUse
  title : String
  report : Report
  cursor : Nat
deriving DecidableEq, Inhabited

namespace Listing

def new (use : ListingUse) (title : String) (report : Report) : Listing := ⟨use, title, report, 0⟩

def down (listing : Listing) : Listing :=
  if listing.cursor + 1 < listing.report.rows.length then
    { listing with cursor := listing.cursor + 1 }
  else listing

def up (listing : Listing) : Listing := { listing with cursor := listing.cursor - 1 }

/-- The image named in the second column of the row at the cursor. -/
def selectedImage? (listing : Listing) : Option String := do
  let row ← listing.report.rows[listing.cursor]?
  let name := Text.trim (← row[1]?)
  if name.isEmpty then none else some name

end Listing

end Deckhand
