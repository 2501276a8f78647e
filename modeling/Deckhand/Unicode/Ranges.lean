namespace Deckhand.Unicode

/-- Disjoint inclusive ranges of code points in increasing order. -/
abbrev Ranges := Array (Nat × Nat)

variable {α : Type}

def findBetween? (bounds : α → Nat × Nat) (table : Array α) (n low high : Nat) : Option α :=
  if low < high then
    let middle := (low + high) / 2
    match table[middle]? with
    | none => none
    | some entry =>
      if n < (bounds entry).1 then findBetween? bounds table n low middle
      else if (bounds entry).2 < n then findBetween? bounds table n (middle + 1) high
      else some entry
  else none
termination_by high - low

def find? (bounds : α → Nat × Nat) (table : Array α) (n : Nat) : Option α :=
  findBetween? bounds table n 0 table.size

def Ranges.contains (ranges : Ranges) (c : Char) : Bool :=
  (find? id ranges c.toNat).isSome

end Deckhand.Unicode
