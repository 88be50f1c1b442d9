import PilotLamp.Value

/-!
# Tables under construction

The tables of a TOML document grow while it is read. How a table came into being decides what may
still be added to it: a table is opened by a header once, a table made by a dotted key is never
opened by a header, and a value is never extended. An operation that breaks a rule yields nothing.
-/

namespace PilotLamp

/-- How a table came into being. -/
inductive TableOrigin
  /-- By a header of its own. -/
  | header
  /-- On the way of a header to a table inside it. -/
  | passed
  /-- On the way of a dotted key. -/
  | dotted
deriving DecidableEq, Repr

/-- What stands under a key while a document is read. -/
inductive TomlItem
  /-- A finished value. -/
  | leaf (value : Value)
  /-- A table that may grow. -/
  | table (origin : TableOrigin) (entries : List (String × TomlItem))
  /-- Tables under one header, newest last. -/
  | tables (elements : List (List (String × TomlItem)))

/-- The entries of a table under construction. -/
abbrev TomlEntries := List (String × TomlItem)

namespace TomlItem

mutual

/-- The value that an item amounts to. -/
def toValue : TomlItem → Value
  | leaf value => value
  | table _ entries => .table (entryValues entries)
  | tables elements => .array (elementValues elements)

/-- The values of entries. -/
def entryValues : List (String × TomlItem) → List (String × Value)
  | [] => []
  | (key, item) :: rest => (key, item.toValue) :: entryValues rest

/-- The values of tables. -/
def elementValues : List (List (String × TomlItem)) → List Value
  | [] => []
  | entries :: rest => .table (entryValues entries) :: elementValues rest

end

end TomlItem

namespace TomlEntries

/-- Puts an item in place of the one under a key that is there. -/
def replace (key : String) (item : TomlItem) : TomlEntries → TomlEntries
  | [] => []
  | (other, old) :: rest =>
    if other = key then (key, item) :: rest else (other, old) :: replace key item rest

/-- Edits the table at the end of a path, making tables on the way. With several tables under a
key the newest is meant. A dotted key does not enter a table that a header opened. -/
def editAt (byDottedKey : Bool) (edit : TableOrigin → TomlEntries → Option TomlEntries) :
    List String → TableOrigin → TomlEntries → Option TomlEntries
  | [], origin, entries => edit origin entries
  | key :: rest, _, entries =>
    match entries.lookup key with
    | none =>
      let origin := if byDottedKey then TableOrigin.dotted else .passed
      (editAt byDottedKey edit rest origin []).map fun inner =>
        entries ++ [(key, .table origin inner)]
    | some (.table origin inner) =>
      if byDottedKey && origin == .header then none
      else
        (editAt byDottedKey edit rest origin inner).map fun inner =>
          replace key (.table origin inner) entries
    | some (.tables elements) =>
      match elements.getLast? with
      | none => none
      | some newest =>
        (editAt byDottedKey edit rest .header newest).map fun newest =>
          replace key (.tables (elements.dropLast ++ [newest])) entries
    | some (.leaf _) => none

/-- Adds a value under a key that is not there yet, to a table of the right origin: a plain key
to any table but one of dotted keys, a dotted key to a table of dotted keys. -/
def addValue (byDottedKey : Bool) (key : String) (value : Value) (origin : TableOrigin)
    (entries : TomlEntries) : Option TomlEntries :=
  if (origin == .dotted) != byDottedKey then none
  else if (entries.lookup key).isSome then none
  else some (entries ++ [(key, .leaf value)])

/-- Adds a value under a key with the path before it, within one table. -/
def assign (path : List String) (key : String) (value : Value) (origin : TableOrigin)
    (entries : TomlEntries) : Option TomlEntries :=
  editAt true (addValue (!path.isEmpty) key value) path origin entries

/-- Opens a table by its header. -/
def openTable (path : List String) (key : String) (entries : TomlEntries) :
    Option TomlEntries :=
  editAt false
    (fun _ inner => match inner.lookup key with
      | none => some (inner ++ [(key, .table .header [])])
      | some (.table .passed old) => some (replace key (.table .header old) inner)
      | some _ => none)
    path .header entries

/-- Adds a table to those under one header. -/
def appendTable (path : List String) (key : String) (entries : TomlEntries) :
    Option TomlEntries :=
  editAt false
    (fun _ inner => match inner.lookup key with
      | none => some (inner ++ [(key, .tables [[]])])
      | some (.tables elements) => some (replace key (.tables (elements ++ [[]])) inner)
      | some _ => none)
    path .header entries

end TomlEntries

end PilotLamp
