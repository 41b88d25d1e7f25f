import TrialSeries.Data
import TrialSeries.Toml.Key

/-!
# Tables in TOML

A table maps keys to values, tables and arrays of tables. How a table came to be decides what may
still be added to it: a table is defined once, by its header; a header also implies the tables on
the way to it, which may be defined later; and a table that arose from a dotted key grows by dotted
keys alone.
-/

namespace TrialSeries.Toml

inductive Origin where
  | defined
  /-- A step on the way to the table of a header. -/
  | implied
  /-- A step of a dotted key. -/
  | dotted
deriving DecidableEq

inductive Node where
  | value (data : Data)
  | table (origin : Origin) (entries : List (String × Node))
  /-- An array of tables, each of them defined. -/
  | tables (items : List (List (String × Node)))
deriving Inhabited

/-- A table under construction; no key occurs twice. -/
abbrev Table := List (String × Node)

/-! ## What a table says -/

mutual

def Node.toData : Node → Data
  | .value data => data
  | .table _ entries => .record (entriesToData entries)
  | .tables items => .sequence (itemsToData items)

def entriesToData : List (String × Node) → List (String × Data)
  | [] => []
  | (key, node) :: entries => (key, node.toData) :: entriesToData entries

def itemsToData : List (List (String × Node)) → List Data
  | [] => []
  | entries :: items => .record (entriesToData entries) :: itemsToData items

end

def Table.toData (table : Table) : Data := .record (entriesToData table)

namespace Table

/-- Writes a node under a key, in place of a present one. -/
def set (key : String) (node : Node) : Table → Table
  | [] => [(key, node)]
  | (other, old) :: rest =>
    if other = key then (key, node) :: rest else (other, old) :: set key node rest

/-! ## Following a path -/

/-- What a path of keys belongs to. -/
inductive Route where
  | header
  | dottedKey
deriving DecidableEq

/-- The origin of the tables that a route brings about. -/
def Route.origin : Route → Origin
  | .header => .implied
  | .dottedKey => .dotted

/-- A route may go on in a table. -/
def Route.mayEnter : Route → Origin → Bool
  | .dottedKey, .defined => false
  | _, _ => true

/-- Changes the table at the end of a path, given its origin. The way leads into the last table of
an array, and through new tables where there are none. -/
def alterAt (route : Route) (change : Origin → Table → Option Table) :
    List String → Origin → Table → Option Table
  | [], origin, table => change origin table
  | key :: steps, _, table =>
    match table.lookup key with
    | none => do
      let inner ← alterAt route change steps route.origin []
      some (table.set key (.table route.origin inner))
    | some (.value _) => none
    | some (.table origin inner) =>
      if route.mayEnter origin then do
        let inner ← alterAt route change steps origin inner
        some (table.set key (.table origin inner))
      else none
    | some (.tables items) =>
      match items.getLast? with
      | none => none
      | some last => do
        let last ← alterAt route change steps .defined last
        some (table.set key (.tables (items.dropLast ++ [last])))

/-! ## Adding to a table -/

/-- Adds a value under a new key. A dotted key adds to tables of dotted keys only. -/
def addValue (isDotted : Bool) (key : String) (data : Data) (origin : Origin) (table : Table) :
    Option Table :=
  if (table.lookup key).isSome ∨ isDotted ≠ decide (origin = .dotted) then none
  else some (table ++ [(key, .value data)])

/-- Adds the value of a key path to a table that is being defined. -/
def addPair (table : Table) (path : KeyPath) (data : Data) : Option Table :=
  alterAt .dottedKey (addValue (!path.steps.isEmpty) path.last data) path.steps .defined table

/-- The table of some pairs. -/
def addPairs (table : Table) (pairs : List (KeyPath × Data)) : Option Table :=
  pairs.foldlM (fun table (path, data) ↦ table.addPair path data) table

/-- Defines the table of a header; one that was implied keeps what it holds. -/
def define (key : String) (pairs : List (KeyPath × Data)) (table : Table) : Option Table :=
  match table.lookup key with
  | none => (addPairs [] pairs).map fun inner ↦ table.set key (.table .defined inner)
  | some (.table .implied inner) =>
    (addPairs inner pairs).map fun inner ↦ table.set key (.table .defined inner)
  | some _ => none

/-- Adds a table to the array of a header. -/
def append (key : String) (pairs : List (KeyPath × Data)) (table : Table) : Option Table :=
  match table.lookup key with
  | none => (addPairs [] pairs).map fun inner ↦ table.set key (.tables [inner])
  | some (.tables items) =>
    (addPairs [] pairs).map fun inner ↦ table.set key (.tables (items ++ [inner]))
  | some _ => none

end Table

end TrialSeries.Toml
