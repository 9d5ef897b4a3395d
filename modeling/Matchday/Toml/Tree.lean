import Matchday.Toml.Value

/-!
# Tables under construction

A configuration file defines its tables piece by piece: by headers, by keys with dots, and by the
way to another table.  How a table came to be decides what may still be added to it.

## Main definitions

* `Toml.Origin`, `Toml.Node`: how a table came to be, and what stands behind a key so far.
* `Toml.assign`: puts a value behind a key with dots.
* `Toml.openTable`, `Toml.openItem`: the effect of a header.
* `Toml.assignBelow`: puts a value into the table of the last header.
* `Toml.Node.finish`: the finished value.
-/

namespace Matchday.Toml

/-- How a table came to be. -/
inductive Origin where
  /-- A header names it. -/
  | header
  /-- A header names a table inside it. -/
  | implied
  /-- A key with dots names a key inside it. -/
  | dotted
deriving DecidableEq, Repr

/-- What stands behind a key so far.  Only tables and arrays of tables can still grow. -/
inductive Node where
  | value (v : Value)
  | table (origin : Origin) (entries : List (String × Node))
  | tables (items : List (List (String × Node)))
deriving Repr, Inhabited

/-- The keys of a table that is being built, each with what stands under it. -/
abbrev Entries := List (String × Node)

/-- Replaces what stands behind a key, or adds the key. -/
def update (key : String) (node : Node) (entries : Entries) : Entries :=
  match entries with
  | [] => [(key, node)]
  | (k, n) :: rest => if k = key then (key, node) :: rest else (k, n) :: update key node rest

/-- Puts a value behind a key, in the table to which a path of keys leads.  Tables on the way must
not belong to a header, and the last one must come from keys with dots as well.  An array of tables
leads on to its last table. -/
def assign (key : String) (v : Value) : (path : List String) → Entries → Option Entries
  | [], entries =>
    match entries.lookup key with
    | none => some (entries ++ [(key, .value v)])
    | some _ => none
  | p :: path, entries =>
    match entries.lookup p with
    | none => do return entries ++ [(p, .table .dotted (← assign key v path []))]
    | some (.table origin inner) =>
      if origin = .header || (path.isEmpty && origin ≠ .dotted) then none
      else do return update p (.table origin (← assign key v path inner)) entries
    | some (.tables items) =>
      match items.getLast? with
      | some inner =>
        if path.isEmpty then none
        else do return update p (.tables (items.dropLast ++ [← assign key v path inner])) entries
      | none => none
    | some (.value _) => none

/-- Changes the table to which a path of keys leads, the last one of an array of tables.  Missing
tables are made when `make` holds. -/
def changeAt (change : Entries → Option Entries) (make : Bool) :
    (path : List String) → Entries → Option Entries
  | [], entries => change entries
  | p :: path, entries =>
    match entries.lookup p with
    | none =>
      if make then do
        return entries ++ [(p, .table .implied (← changeAt change make path []))]
      else none
    | some (.table origin inner) => do
      return update p (.table origin (← changeAt change make path inner)) entries
    | some (.tables items) =>
      match items.getLast? with
      | none => none
      | some inner => do
        return update p (.tables (items.dropLast ++ [← changeAt change make path inner])) entries
    | some (.value _) => none

/-- The header of a table.  The table is new, or a header below it has implied it. -/
def openTable (path : List String) (key : String) (root : Entries) : Option Entries :=
  changeAt (fun entries =>
    match entries.lookup key with
    | none => some (entries ++ [(key, .table .header [])])
    | some (.table .implied inner) => some (update key (.table .header inner) entries)
    | some _ => none) true path root

/-- The header of a further table in an array. -/
def openItem (path : List String) (key : String) (root : Entries) : Option Entries :=
  changeAt (fun entries =>
    match entries.lookup key with
    | none => some (entries ++ [(key, .tables [[]])])
    | some (.tables items) => some (update key (.tables (items ++ [[]])) entries)
    | some _ => none) true path root

/-- Puts a value behind a key with dots, in the table of the last header. -/
def assignBelow (header path : List String) (key : String) (v : Value) (root : Entries) :
    Option Entries :=
  changeAt (assign key v path) false header root

mutual

/-- What stands behind a key when the file has ended. -/
def Node.finish : Node → Value
  | .value v => v
  | .table _ entries => .table (finishEntries entries)
  | .tables items => .array (finishItems items)

/-- The entries of a finished table. -/
def finishEntries : List (String × Node) → List (String × Value)
  | [] => []
  | (key, node) :: entries => (key, node.finish) :: finishEntries entries

/-- The tables of a finished array of tables. -/
def finishItems : List (List (String × Node)) → List Value
  | [] => []
  | entries :: items => .table (finishEntries entries) :: finishItems items

end

end Matchday.Toml
