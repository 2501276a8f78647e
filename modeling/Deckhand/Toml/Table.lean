namespace Deckhand.Toml

/-- A value that is kept. Numbers with a fraction, dates, arrays and tables in braces are only known
to be there. -/
inductive Scalar where
  | string (text : String)
  | integer (n : Int)
  | other
deriving DecidableEq, Inhabited

/-- What a key stands for. A table is `implied` if it was only mentioned on the way to another one,
and `dotted` if that was in a key with dots. Of an array of tables the last one is kept. -/
inductive Node where
  | value (value : Scalar)
  | table (implied dotted : Bool) (entries : List (String × Node))
  | tables (last : List (String × Node))
deriving Inhabited

abbrev Entries := List (String × Node)

namespace Entries

def set (entries : Entries) (key : String) (node : Node) : Entries :=
  match entries with
  | [] => [(key, node)]
  | (k, n) :: rest => if k = key then (k, node) :: rest else (k, n) :: set rest key node

def erase (entries : Entries) (key : String) : Entries := entries.filter (·.1 != key)

variable {α : Type}

/-- Changes the table at the end of a path. Tables on the way that are missing are made, and a path of
a key with dots leads only through tables that were not spelled out. `f` is told whether its table
comes from a key with dots. -/
def modifyAt (dotted : Bool) (f : Bool → Entries → Option (α × Entries)) (isDotted : Bool)
    (entries : Entries) : List String → Option (α × Entries)
  | [] => f isDotted entries
  | key :: path =>
    match entries.lookup key with
    | none => do
      let (a, sub) ← modifyAt dotted f dotted [] path
      some (a, entries.set key (.table true dotted sub))
    | some (.value _) => none
    | some (.table implied subDotted sub) =>
      if dotted && !implied then none
      else do
        let (a, sub) ← modifyAt dotted f subDotted sub path
        some (a, entries.set key (.table implied subDotted sub))
    | some (.tables last) => do
      let (a, last) ← modifyAt dotted f false last path
      some (a, entries.set key (.tables last))

def insert (entries : Entries) (path : List String) (key : String) (node : Node) :
    Option Entries :=
  (modifyAt true (fun isDotted entries =>
    if isDotted == path.isEmpty || (entries.lookup key).isSome then none
    else some ((), entries.set key node)) false entries path).map (·.2)

/-- The entries that a table has before its header, and the entries around without it. -/
def openTable (entries : Entries) (path : List String) (key : String) :
    Option (Entries × Entries) :=
  modifyAt false (fun _ entries =>
    match entries.lookup key with
    | none => some ([], entries)
    | some (.table true false sub) => some (sub, entries.erase key)
    | some _ => none) false entries path

def closeTable (entries : Entries) (path : List String) (key : String) (table : Entries) :
    Option Entries :=
  (modifyAt false (fun _ entries =>
    if (entries.lookup key).isSome then none
    else some ((), entries.set key (.table false false table))) false entries path).map (·.2)

def openElement (entries : Entries) (path : List String) (key : String) : Option Entries :=
  (modifyAt false (fun _ entries =>
    match entries.lookup key with
    | none => some ((), entries.set key (.tables []))
    | some (.tables _) => some ((), entries)
    | some _ => none) false entries path).map (·.2)

def closeElement (entries : Entries) (path : List String) (key : String) (table : Entries) :
    Option Entries :=
  (modifyAt false (fun _ entries =>
    match entries.lookup key with
    | none | some (.tables _) => some ((), entries.set key (.tables table))
    | some _ => none) false entries path).map (·.2)

end Entries

structure Filling where
  done : Entries
  current : Entries
  header : List String
  isElement : Bool
deriving Inhabited

namespace Filling

def start : Filling := ⟨[], [], [], false⟩

def close (filling : Filling) : Option Entries :=
  match filling.header.getLast? with
  | none => some filling.current
  | some key =>
    let path := filling.header.dropLast
    if filling.isElement then filling.done.closeElement path key filling.current
    else filling.done.closeTable path key filling.current

def open? (filling : Filling) (header : List String) (isElement : Bool) : Option Filling := do
  let entries ← filling.close
  let key ← header.getLast?
  if isElement then
    let entries ← entries.openElement header.dropLast key
    some ⟨entries, [], header, true⟩
  else
    let (current, entries) ← entries.openTable header.dropLast key
    some ⟨entries, current, header, false⟩

def add (filling : Filling) (path : List String) (node : Node) : Option Filling := do
  let key ← path.getLast?
  let current ← filling.current.insert path.dropLast key node
  some { filling with current }

end Filling

end Deckhand.Toml
