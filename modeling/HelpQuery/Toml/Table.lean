import HelpQuery.Toml.Value

/-!
# Tables under construction

A document builds its tables piece by piece, and how a table came about decides what may be added
to it later.  A table with a header of its own cannot get a second one, a table made by dotted keys
cannot get a header, and a value that stands on its line, inline tables and arrays included, cannot
be added to at all.  No key is ever given twice.
-/

namespace HelpQuery.Toml

/-- How a table came about. -/
inductive Origin where
  /-- A header of its own. -/
  | header
  /-- The header of a table inside it. -/
  | implied
  /-- A dotted key. -/
  | dotted
  deriving DecidableEq, Repr

/-- What a key of an unfinished table holds. -/
inductive Node where
  | value (v : Toml)
  | table (origin : Origin) (entries : List (String × Node))
  /-- An array of tables: the finished ones and the one that can be added to. -/
  | tables (earlier : List (List (String × Node))) (last : List (String × Node))

/-- The entries of an unfinished table. -/
abbrev Entries := List (String × Node)

namespace Entries

/-- Puts a node in the place of the one its key has. -/
def put (key : String) (node : Node) (entries : Entries) : Entries :=
  entries.map fun (k, n) => if k = key then (k, node) else (k, n)

/-- Gives a value to a dotted key.  The tables on the way are made if missing; `mayHold` tells
whether the table itself may get another key in this way. -/
def assign (mayHold : Bool) (path : List String) (v : Toml) (entries : Entries) :
    Option Entries :=
  match path with
  | [] => none
  | [key] =>
    if mayHold && (entries.lookup key).isNone then some (entries ++ [(key, .value v)]) else none
  | key :: rest =>
    match entries.lookup key with
    | none => (assign true rest v []).map fun sub => entries ++ [(key, .table .dotted sub)]
    | some (.table .dotted sub) =>
      (assign true rest v sub).map fun s => put key (.table .dotted s) entries
    | some (.table .implied sub) =>
      (assign false rest v sub).map fun s => put key (.table .implied s) entries
    | some (.table .header _) => none
    | some (.tables earlier last) =>
      (assign false rest v last).map fun s => put key (.tables earlier s) entries
    | some (.value _) => none

/-- Opens the table a header names and fills it; `element` asks for a new element of an array of
tables.  The tables on the way are made if missing, and of an array of tables the last is meant. -/
def define (element : Bool) (fill : Entries → Option Entries) (path : List String)
    (entries : Entries) : Option Entries :=
  match path with
  | [] => none
  | [key] =>
    match element, entries.lookup key with
    | false, none => (fill []).map fun s => entries ++ [(key, .table .header s)]
    | false, some (.table .implied sub) =>
      (fill sub).map fun s => put key (.table .header s) entries
    | true, none => (fill []).map fun s => entries ++ [(key, .tables [] s)]
    | true, some (.tables earlier last) =>
      (fill []).map fun s => put key (.tables (earlier ++ [last]) s) entries
    | _, _ => none
  | key :: rest =>
    match entries.lookup key with
    | none => (define element fill rest []).map fun s => entries ++ [(key, .table .implied s)]
    | some (.table origin sub) =>
      (define element fill rest sub).map fun s => put key (.table origin s) entries
    | some (.tables earlier last) =>
      (define element fill rest last).map fun s => put key (.tables earlier s) entries
    | some (.value _) => none

/-- Gives values to several dotted keys, one after the other. -/
def assignAll (pairs : List (List String × Toml)) (entries : Entries) : Option Entries :=
  pairs.foldlM (fun es (path, v) => assign true path v es) entries

end Entries

/-! ## Finished tables -/

mutual

/-- The value of a node. -/
def Node.finish : Node → Toml
  | .value v => v
  | .table _ entries => .table (finishEntries entries)
  | .tables earlier last => .array (finishTables earlier ++ [.table (finishEntries last)])

def finishEntries : List (String × Node) → List (String × Toml)
  | [] => []
  | (key, node) :: rest => (key, node.finish) :: finishEntries rest

def finishTables : List (List (String × Node)) → List Toml
  | [] => []
  | entries :: rest => .table (finishEntries entries) :: finishTables rest

end

end HelpQuery.Toml
