import Worksheet.Toml.Statement

/-!
From the statements of a TOML text to its document. Each table remembers how it came to be, because
that decides which statements may still add to it.
-/

namespace Worksheet.Toml

inductive Origin
  /-- A header names it. -/
  | header
  /-- A header names a table inside it. -/
  | passing
  /-- A dotted key runs through it. -/
  | dotted
deriving DecidableEq, Repr

/-- What an entry of a table holds. The elements of a list of tables are kept in reverse. -/
inductive Item
  | value (d : Document)
  | table (origin : Origin) (entries : List (String × Item))
  | tables (elements : List (List (String × Item)))
deriving Repr, Inhabited

abbrev Entries := List (String × Item)

/-- Puts an item in the place of the one with the same key, or at the end. -/
def replace (key : String) (item : Item) : Entries → Entries
  | [] => [(key, item)]
  | (k, i) :: rest => if k = key then (key, item) :: rest else (k, i) :: replace key item rest

/-- Changes the table to which a header's path leads; lists of tables stand for their last
element, and what does not exist yet is made. -/
def within? (change : Entries → Option Entries) : List String → Entries → Option Entries
  | [], entries => change entries
  | key :: path, entries =>
    match entries.lookup key with
    | none => (within? change path []).map fun inner => replace key (.table .passing inner) entries
    | some (.table origin inner) =>
      (within? change path inner).map fun inner => replace key (.table origin inner) entries
    | some (.tables (last :: earlier)) =>
      (within? change path last).map fun last => replace key (.tables (last :: earlier)) entries
    | some _ => none

/-- Adds an entry. The tables on the path of a dotted key may only be added to by dotted keys of
the same table. -/
def put? (d : Document) : List String → Entries → Option Entries
  | [], _ => none
  | [key], entries =>
    match entries.lookup key with
    | none => some (entries ++ [(key, .value d)])
    | some _ => none
  | key :: path, entries =>
    match entries.lookup key with
    | none => (put? d path []).map fun inner => replace key (.table .dotted inner) entries
    | some (.table origin inner) =>
      if origin = .dotted ∨ (origin = .passing ∧ 2 ≤ path.length) then
        (put? d path inner).map fun inner => replace key (.table origin inner) entries
      else none
    | some _ => none

/-- Opens the table that a header names. It may exist only because of tables inside it. -/
def openTable? (key : String) (entries : Entries) : Option Entries :=
  match entries.lookup key with
  | none => some (replace key (.table .header []) entries)
  | some (.table .passing inner) => some (replace key (.table .header inner) entries)
  | some _ => none

/-- Opens a new element of the list of tables that a header names. -/
def openElement? (key : String) (entries : Entries) : Option Entries :=
  match entries.lookup key with
  | none => some (replace key (.tables [[]]) entries)
  | some (.tables elements) => some (replace key (.tables ([] :: elements)) entries)
  | some _ => none

/-- The path to the table around a header's table, and the key of that table in it. -/
def split? (path : List String) : Option (List String × String) :=
  path.getLast?.map fun key => (path.dropLast, key)

mutual

def Item.toDocument : Item → Document
  | .value d => d
  | .table _ entries => .table (documentEntries entries)
  | .tables elements => .list (documentTables elements).reverse

def documentEntries : List (String × Item) → List (String × Document)
  | [] => []
  | (key, item) :: rest => (key, item.toDocument) :: documentEntries rest

def documentTables : List (List (String × Item)) → List Document
  | [] => []
  | entries :: rest => .table (documentEntries entries) :: documentTables rest

end

mutual

/-- The document of a value. The entries of an inline table must agree with each other. -/
def Value.toDocument? : Value → Option Document
  | .scalar s => some (.datum s)
  | .list items => (documentItems? items).map .list
  | .table entries =>
    (inlineEntries? [] entries).map fun entries => .table (documentEntries entries)

def documentItems? : List Value → Option (List Document)
  | [] => some []
  | v :: rest => do return (← v.toDocument?) :: (← documentItems? rest)

def inlineEntries? (done : Entries) : List (List String × Value) → Option Entries
  | [] => some done
  | (path, v) :: rest => do inlineEntries? (← put? (← v.toDocument?) path done) rest

end

/-- What has been read so far, and the path of the table that entries are added to. -/
structure Assembly where
  entries : Entries := []
  current : List String := []

/-- The lists and inline tables of a value may be nested this deeply. -/
def deepest : Nat := 80

def Assembly.feed (a : Assembly) : Statement → Option Assembly
  | .entry path v => do
    guard (v.depth ≤ deepest)
    let d ← v.toDocument?
    return { a with entries := ← within? (put? d path) a.current a.entries }
  | .table path => do
    let (outer, key) ← split? path
    return ⟨← within? (openTable? key) outer a.entries, path⟩
  | .element path => do
    let (outer, key) ← split? path
    return ⟨← within? (openElement? key) outer a.entries, path⟩

def read? (text : String) : Option Document := do
  let a ← (← statements? text.toList).foldlM Assembly.feed {}
  return .table (documentEntries a.entries)

end Worksheet.Toml
