import Typeahead.Keyed
import Typeahead.Toml.Basic

namespace Typeahead.Toml

-- Named by a header, on the way to one, or made by the dots of a key.
inductive Origin where
  | header
  | implied
  | dotted
  deriving DecidableEq, Repr

-- Of the tables that share one header, the latest is in front.
inductive Entry where
  | value (v : Toml)
  | table (origin : Origin) (entries : List (Text × Entry))
  | tables (latest : List (Text × Entry)) (earlier : List (List (Text × Entry)))

abbrev Entries := List (Text × Entry)

namespace Entry

-- Adds a value under a key that is new to its table. The names before the key are passed through:
-- a table that a header has named is closed to them, and the last of them must be a table that
-- dots have made.
def insert (key : Text) (v : Toml) : List Text → Entries → Option Entries
  | [], entries =>
    match Keyed.find? key entries with
    | none => some (Keyed.put key (.value v) entries)
    | some _ => none
  | [name], entries =>
    match Keyed.find? name entries with
    | none => some (Keyed.put name (.table .dotted [(key, .value v)]) entries)
    | some (.table .dotted inner) =>
      (insert key v [] inner).map fun inner => Keyed.put name (.table .dotted inner) entries
    | some _ => none
  | name :: path, entries =>
    match Keyed.find? name entries with
    | none => (insert key v path []).map fun inner => Keyed.put name (.table .dotted inner) entries
    | some (.table .header _) => none
    | some (.table origin inner) =>
      (insert key v path inner).map fun inner => Keyed.put name (.table origin inner) entries
    | some (.tables latest earlier) =>
      (insert key v path latest).map fun latest => Keyed.put name (.tables latest earlier) entries
    | some (.value _) => none

-- Changes the table at the end of a path of names; tables that are missing are made, and of
-- several tables with one header it is the latest.
def update (change : Entries → Option Entries) : List Text → Entries → Option Entries
  | [], entries => change entries
  | name :: path, entries =>
    match Keyed.find? name entries with
    | none =>
      (update change path []).map fun inner => Keyed.put name (.table .implied inner) entries
    | some (.table origin inner) =>
      (update change path inner).map fun inner => Keyed.put name (.table origin inner) entries
    | some (.tables latest earlier) =>
      (update change path latest).map fun latest => Keyed.put name (.tables latest earlier) entries
    | some (.value _) => none

def openTable (name : Text) (entries : Entries) : Option Entries :=
  match Keyed.find? name entries with
  | none => some (Keyed.put name (.table .header []) entries)
  | some (.table .implied inner) => some (Keyed.put name (.table .header inner) entries)
  | some _ => none

def openNextTable (name : Text) (entries : Entries) : Option Entries :=
  match Keyed.find? name entries with
  | none => some (Keyed.put name (.tables [] []) entries)
  | some (.tables latest earlier) => some (Keyed.put name (.tables [] (latest :: earlier)) entries)
  | some _ => none

mutual
def toToml : Entry → Toml
  | .value v => v
  | .table _ entries => .table (valuesOf entries)
  | .tables latest earlier => .array ((.table (valuesOf latest) :: tablesOf earlier).reverse)

def valuesOf : List (Text × Entry) → List (Text × Toml)
  | [] => []
  | (key, entry) :: rest => (key, toToml entry) :: valuesOf rest

def tablesOf : List (List (Text × Entry)) → List Toml
  | [] => []
  | entries :: rest => .table (valuesOf entries) :: tablesOf rest
end

end Entry
end Typeahead.Toml
