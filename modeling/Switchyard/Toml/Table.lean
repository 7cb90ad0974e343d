import Switchyard.Json.Basic

/-!
# Building tables

A TOML document fills one tree of tables from three kinds of lines: headers of tables, headers of
elements of arrays of tables, and keys with values. What a line may still add to a table depends on
how the table came to be, and that is kept with it.

* `Table.within`: enters a table by a path, making the tables on the way that are missing.
* `Table.openTable`, `Table.openElement`, `Table.assign`: what the three kinds of lines do.
-/

namespace Switchyard.Toml

/-- How a table came to be. -/
inductive TableKind where
  /-- It is the document, or has a header of its own. -/
  | header
  /-- It stands on the path of a header. -/
  | implied
  /-- It stands on the path of a dotted key. -/
  | dotted
deriving DecidableEq, Repr

/-- What stands under a key. -/
inductive Item where
  /-- A value, closed: nothing can be added to it. -/
  | value (j : Json)
  | table (kind : TableKind) (entries : List (String × Item))
  /-- An array of tables, one for each of its headers. -/
  | tables (elements : List (List (String × Item)))
deriving Inhabited

/-- The entries of a table, in the order in which their keys came up. -/
abbrev Table := List (String × Item)

mutual

/-- The document of what stands under a key. -/
def Item.toJson : Item → Json
  | .value j => j
  | .table _ entries => .object (membersOf entries)
  | .tables elements => .array (elementsOf elements)

/-- The members that the entries of a table stand for. -/
def membersOf : List (String × Item) → List (String × Json)
  | [] => []
  | (k, x) :: rest => (k, x.toJson) :: membersOf rest

/-- The items that the tables of an array stand for. -/
def elementsOf : List (List (String × Item)) → List Json
  | [] => []
  | t :: rest => .object (membersOf t) :: elementsOf rest

end

namespace Table

/-- The document of a table. -/
def toJson (t : Table) : Json := .object (membersOf t)

/-- What stands under a key of a table. -/
def find? (t : Table) (key : String) : Option Item := (List.find? (fun e => e.1 == key) t).map (·.2)

/-- Puts an item under a key, in its place if there is one already. -/
def put (t : Table) (key : String) (x : Item) : Table :=
  if (t.find? key).isSome then t.map fun e => if e.1 == key then (key, x) else e
  else t ++ [(key, x)]

/-- Changes the table at a path. An array of tables stands for its last element. A dotted path makes
and enters only tables that have no header. -/
def within (isDotted : Bool) (change : TableKind → Table → Option Table) :
    List String → TableKind → Table → Option Table
  | [], kind, t => change kind t
  | key :: path, _, t =>
    match t.find? key with
    | none => do
      let kind := if isDotted then .dotted else .implied
      let inner ← within isDotted change path kind []
      some (t.put key (.table kind inner))
    | some (.value _) => none
    | some (.tables elements) => do
      let inner ← within isDotted change path .header (← elements.getLast?)
      some (t.put key (.tables (elements.dropLast ++ [inner])))
    | some (.table kind entries) =>
      if isDotted && kind == .header then none
      else do
        let inner ← within isDotted change path kind entries
        some (t.put key (.table kind inner))

/-- Adds a value under a dotted key, whose last part must be new. A table that a path of several
parts leads to must have been made by such paths alone. -/
def assign (t : Table) (path : List String) (key : String) (j : Json) : Option Table :=
  within true (fun kind inner =>
    if (kind == .dotted) == path.isEmpty || (inner.find? key).isSome then none
    else some (inner.put key (.value j))) path .header t

/-- The table that pairs of dotted keys and values make, each key being a path and a last part. -/
def ofPairs (pairs : List ((List String × String) × Json)) : Option Table :=
  pairs.foldlM (fun t p => t.assign p.1.1 p.1.2 p.2) []

/-- The header of a table; it must not have had one. -/
def openTable (t : Table) (path : List String) (key : String) : Option Table :=
  within false (fun _ inner =>
    match inner.find? key with
    | none => some (inner.put key (.table .header []))
    | some (.table .implied entries) => some (inner.put key (.table .header entries))
    | some _ => none) path .header t

/-- The header of a new element of an array of tables. -/
def openElement (t : Table) (path : List String) (key : String) : Option Table :=
  within false (fun _ inner =>
    match inner.find? key with
    | none => some (inner.put key (.tables [[]]))
    | some (.tables elements) => some (inner.put key (.tables (elements ++ [[]])))
    | some _ => none) path .header t

end Table

end Switchyard.Toml
