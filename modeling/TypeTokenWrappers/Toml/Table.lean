import TypeTokenWrappers.Toml.Value

/-! # Tables under construction

While a document is read, a table remembers how it came about, because that
decides whether it may still be extended. Every operation gives `none` where the
document would define something twice. -/

namespace TypeTokenWrappers.Toml

inductive Origin where
  | header
  /-- Passed through by the header of a table inside it. -/
  | implicit
  | dotted
deriving DecidableEq, Repr

inductive Item where
  | value (value : Value)
  | table (origin : Origin) (entries : List (String × Item))
  /-- Tables under one repeated header; `last` is the one being filled. -/
  | tables (earlier : List (List (String × Item))) (last : List (String × Item))

abbrev Entries := List (String × Item)

namespace Entries

def alter (key : String) (change : Option Item → Option Item) : Entries → Option Entries
  | [] => do
    let item ← change none
    return [(key, item)]
  | (other, item) :: others =>
    if other = key then do
      let changed ← change (some item)
      return (key, changed) :: others
    else do
      let rest ← alter key change others
      return (other, item) :: rest

/-- Acts on the table under a header, making missing tables on the way. -/
def descend (act : Entries → Option Entries) : (path : List String) → Entries → Option Entries
  | [], entries => act entries
  | key :: path, entries =>
    entries.alter key fun
      | none => (descend act path []).map (.table .implicit)
      | some (.table origin child) => (descend act path child).map (.table origin)
      | some (.tables earlier last) => (descend act path last).map (.tables earlier)
      | some (.value _) => none

/-- The path of a dotted key may not go through a table that has a header of its own,
and may not end in a table under a repeated header. A table that was only passed
through by headers counts as made by dotted keys from then on. -/
def descendDotted (act : Entries → Option Entries) :
    (path : List String) → Entries → Option Entries
  | [], entries => act entries
  | key :: path, entries =>
    entries.alter key fun
      | none => (descendDotted act path []).map (.table .dotted)
      | some (.table .header _) => none
      | some (.table _ child) => (descendDotted act path child).map (.table .dotted)
      | some (.tables earlier last) =>
        if path = [] then none else (descendDotted act path last).map (.tables earlier)
      | some (.value _) => none

def insert (path : List String) (key : String) (value : Value) (entries : Entries) :
    Option Entries :=
  entries.descendDotted
    (fun table => table.alter key fun
      | none => some (.value value)
      | some _ => none)
    path

def insertAll (entries : Entries) (pairs : List (List String × String × Value)) :
    Option Entries :=
  pairs.foldlM (fun entries (path, key, value) => entries.insert path key value) entries

def openTable (path : List String) (key : String) (pairs : List (List String × String × Value))
    (entries : Entries) : Option Entries :=
  entries.descend
    (fun table => table.alter key fun
      | none => (insertAll [] pairs).map (.table .header)
      | some (.table .implicit child) => (insertAll child pairs).map (.table .header)
      | some _ => none)
    path

def appendTable (path : List String) (key : String) (pairs : List (List String × String × Value))
    (entries : Entries) : Option Entries :=
  entries.descend
    (fun table => table.alter key fun
      | none => (insertAll [] pairs).map (.tables [])
      | some (.tables earlier last) => (insertAll [] pairs).map (.tables (earlier ++ [last]))
      | some _ => none)
    path

end Entries

/-! Finished tables are values. -/

mutual
def Item.toValue : Item → Value
  | .value value => value
  | .table _ entries => .table (entriesToValues entries)
  | .tables earlier last => .array (tablesToValues earlier ++ [.table (entriesToValues last)])

def entriesToValues : List (String × Item) → List (String × Value)
  | [] => []
  | (key, item) :: others => (key, item.toValue) :: entriesToValues others

def tablesToValues : List (List (String × Item)) → List Value
  | [] => []
  | entries :: others => .table (entriesToValues entries) :: tablesToValues others
end

end TypeTokenWrappers.Toml
