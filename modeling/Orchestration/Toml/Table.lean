import Orchestration.Json.Value

/-!
# Tables of TOML

A document names a table by a header, by the header of a table inside it, or by a key with dots.
How a table came to be decides what may still be put into it: a header may open a table only once,
and keys with dots may add only to tables that such keys have made.

Main definitions:

- `Toml.Entries.descend?`: changes the table at the end of a path.
- `Toml.Entries.insert?`: puts a value at the end of a key.
- `Toml.Document`: a document under reading.
-/

namespace Orchestration
namespace Toml

/-- How a table came to be. -/
inductive TableOrigin where
  | header
  | implied
  | dotted
  deriving DecidableEq, Repr

/-- What a name stands for: a value, which is closed to all that follows, a table, or an array of
tables. -/
inductive Node where
  | value (j : Json)
  | table (origin : TableOrigin) (entries : List (String × Node))
  | tables (items : List (List (String × Node)))
  deriving Inhabited

/-- The names of a table with what they stand for. -/
abbrev Entries : Type :=
  List (String × Node)

mutual

/-- The document that a node stands for. -/
def Node.toJson : Node → Json
  | .value j => j
  | .table _ entries => .obj (Entries.toFields entries)
  | .tables items => .arr (Entries.toItems items)

/-- The fields that the names of a table stand for. -/
def Entries.toFields : List (String × Node) → List (String × Json)
  | [] => []
  | (name, node) :: rest => (name, node.toJson) :: Entries.toFields rest

/-- The items that the tables of an array stand for. -/
def Entries.toItems : List (List (String × Node)) → List Json
  | [] => []
  | entries :: rest => .obj (Entries.toFields entries) :: Entries.toItems rest

end

namespace Entries

/-- What a name stands for. -/
def find? (name : String) : Entries → Option Node
  | [] => none
  | (n, node) :: rest => if n = name then some node else find? name rest

/-- Makes a name stand for something. -/
def set (name : String) (node : Node) : Entries → Entries
  | [] => [(name, node)]
  | (n, old) :: rest => if n = name then (n, node) :: rest else (n, old) :: set name node rest

/-- Takes a name out. -/
def erase (name : String) (entries : Entries) : Entries :=
  entries.filter (fun e => e.1 ≠ name)

/-- Changes the table at the end of a path, and tells what the change told.  Tables that are missing
on the way are made, as parts of a key with dots or of a header.  The path leads through the last
table of an array, and never into a value.  A key with dots does not lead into a table with a header
of its own. -/
def descend? {α : Type} (dotted : Bool) (change : TableOrigin → Entries → Option (Entries × α)) :
    List String → TableOrigin → Entries → Option (Entries × α)
  | [], origin, entries => change origin entries
  | name :: path, _, entries =>
    match find? name entries with
    | none =>
      let origin := if dotted then TableOrigin.dotted else .implied
      (descend? dotted change path origin []).map
        (fun r => (set name (.table origin r.1) entries, r.2))
    | some (.value _) => none
    | some (.table origin inner) =>
      if dotted ∧ origin = .header then none
      else
        (descend? dotted change path origin inner).map
          (fun r => (set name (.table origin r.1) entries, r.2))
    | some (.tables items) =>
      match items.getLast? with
      | none => none
      | some last =>
        (descend? dotted change path .header last).map
          (fun r => (set name (.tables (items.dropLast ++ [r.1])) entries, r.2))

/-- Puts a value at the end of a key into a table that is open for keys.  The name has to be new,
and behind dots it has to lie in a table that dots have made. -/
def insert? (key : List String) (j : Json) (entries : Entries) : Option Entries :=
  let path := key.dropLast
  let add (origin : TableOrigin) (entries : Entries) : Option (Entries × Unit) := do
    let name ← key.getLast?
    if !path.isEmpty && origin ≠ .dotted then none
    else if (find? name entries).isSome then none
    else some (entries ++ [(name, .value j)], ())
  (descend? true add path .header entries).map Prod.fst

end Entries

/-- Which table is open for keys: that of the whole document, that of a header, or one more table of
an array of tables. -/
inductive OpenTable where
  | root
  | single (path : List String)
  | item (path : List String)
  deriving DecidableEq, Repr

/-- A document under reading: its tables, the table that is open for keys, and what that table
holds.  The open table is kept apart until it is closed. -/
structure Document where
  tables : Entries := []
  place : OpenTable := .root
  entries : Entries := []

namespace Document

/-- Puts the open table into its place. -/
def close? (d : Document) : Option Entries :=
  let into (path : List String) (put : String → Entries → Option Entries) : Option Entries := do
    let name ← path.getLast?
    let change (_ : TableOrigin) (entries : Entries) : Option (Entries × Unit) :=
      (put name entries).map (·, ())
    (Entries.descend? false change path.dropLast .header d.tables).map Prod.fst
  match d.place with
  | .root => some d.entries
  | .single path => into path (fun name es => some (es.set name (.table .header d.entries)))
  | .item path => into path fun name es =>
    match es.find? name with
    | none => some (es.set name (.tables [d.entries]))
    | some (.tables items) => some (es.set name (.tables (items ++ [d.entries])))
    | some _ => none

/-- Opens the table of a header.  Only one that headers inside it have implied may be there yet. -/
def openTable? (d : Document) (path : List String) : Option Document := do
  let tables ← d.close?
  let name ← path.getLast?
  let take (_ : TableOrigin) (entries : Entries) : Option (Entries × Entries) :=
    match entries.find? name with
    | none => some (entries, [])
    | some (.table .implied inner) => some (entries.erase name, inner)
    | some _ => none
  let (tables, entries) ← Entries.descend? false take path.dropLast .header tables
  return { tables := tables, place := .single path, entries := entries }

/-- Opens one more table of an array of tables. -/
def openItem? (d : Document) (path : List String) : Option Document := do
  let tables ← d.close?
  let name ← path.getLast?
  let check (_ : TableOrigin) (entries : Entries) : Option (Entries × Unit) :=
    match entries.find? name with
    | none => some (entries, ())
    | some (.tables _) => some (entries, ())
    | some _ => none
  let (tables, _) ← Entries.descend? false check path.dropLast .header tables
  return { tables := tables, place := .item path }

/-- Puts a value into the open table. -/
def insert? (d : Document) (key : List String) (j : Json) : Option Document :=
  (d.entries.insert? key j).map (fun entries => { d with entries := entries })

/-- The fields of a document that was read to its end. -/
def fields? (d : Document) : Option (List (String × Json)) :=
  d.close?.map Entries.toFields

end Document

end Toml
end Orchestration
