import FleetLifecycle.Json.Basic

/-!
# Tables of settings text — how they come to be and what may be added to them

A table comes to be by a header of its own, by the header of a table inside it, or by a key with
points.  What may be added to a table later depends on that.

1. `Form` and `Node`;
2. `within`, a change to the table at a path, whose missing parts come to be on the way;
3. `insertEntry`, one entry under a key with points;
4. `insertTable` and `appendTable`, what the two kinds of header do;
5. `Node.toJson`, the value of a node.
-/

namespace FleetLifecycle
namespace Toml

/-- How a table came to be. -/
inductive Form where
  /-- By a header that names it, or as the text itself. -/
  | header
  /-- By a header that names a table inside it. -/
  | implied
  /-- By a key that names an entry inside it. -/
  | dotted
  deriving DecidableEq, Repr

inductive Node where
  /-- A value, to which nothing can be added. -/
  | value (v : Json)
  | table (form : Form) (entries : List (String × Node))
  /-- An array of tables, each begun by a header. -/
  | tables (items : List (List (String × Node)))

abbrev Table : Type := List (String × Node)

def replace (key : String) (node : Node) : Table → Table
  | [] => []
  | (k, n) :: entries =>
    if k = key then (k, node) :: entries else (k, n) :: replace key node entries

def remove (key : String) : Table → Table
  | [] => []
  | (k, n) :: entries => if k = key then entries else (k, n) :: remove key entries

/-- Changes the table at a path below a table of the given form.  A part of the path that is
missing comes to be as a table of form `new`; a part that is an array of tables leads to the last
of them.  A key with points does not lead into a table that a header named. -/
def within (new : Form) (change : Form → Table → Option Table) :
    Form → List String → Table → Option Table
  | form, [], entries => change form entries
  | _, key :: path, entries =>
    match Entries.find? key entries with
    | none => do
      let inner ← within new change new path []
      return entries ++ [(key, .table new inner)]
    | some (.table form inner) =>
      if new = .dotted ∧ form = .header then none
      else do
        let inner ← within new change form path inner
        return replace key (.table form inner) entries
    | some (.tables items) =>
      match items.getLast? with
      | none => none
      | some last => do
        let last ← within new change .header path last
        return replace key (.tables (items.dropLast ++ [last])) entries
    | some (.value _) => none

/-- Adds an entry under a key that is new; behind points, only to a table that such keys made. -/
def insertEntry (path : List String) (key : String) (v : Json) (entries : Table) :
    Option Table :=
  within .dotted
    (fun form entries =>
      -- without points into the section itself, with points only into a table made by points
      if form = .dotted ↔ path = [] then none
      else if (Entries.find? key entries).isSome then none
      else some (entries ++ [(key, .value v)]))
    .header path entries

/-- An entry of a section: its key, of which all but the last name lead to it, and its value. -/
structure Line where
  path : List String
  key : String
  value : Json

def insertLines : List Line → Table → Option Table
  | [], entries => some entries
  | line :: lines, entries => do
    let entries ← insertEntry line.path line.key line.value entries
    insertLines lines entries

/-- What a header of a table does: the table is new, or was only implied so far. -/
def insertTable (path : List String) (key : String) (lines : List Line) (root : Table) :
    Option Table :=
  within .implied
    (fun _ entries =>
      match Entries.find? key entries with
      | none => do
        let inner ← insertLines lines []
        return entries ++ [(key, .table .header inner)]
      -- what the table has so far stays, but its place is that of its header
      | some (.table .implied inner) => do
        let inner ← insertLines lines inner
        return remove key entries ++ [(key, .table .header inner)]
      | some _ => none)
    .header path root

/-- What a header in double brackets does: it begins a further table of an array. -/
def appendTable (path : List String) (key : String) (lines : List Line) (root : Table) :
    Option Table :=
  within .implied
    (fun _ entries => do
      let inner ← insertLines lines []
      match Entries.find? key entries with
      | none => return entries ++ [(key, .tables [inner])]
      | some (.tables items) => return replace key (.tables (items ++ [inner])) entries
      | some _ => none)
    .header path root

mutual

def Node.toJson : Node → Json
  | .value v => v
  | .table _ entries => .object (entriesToJson entries)
  | .tables items => .array (tablesToJson items)

def entriesToJson : List (String × Node) → List (String × Json)
  | [] => []
  | (k, n) :: entries => (k, n.toJson) :: entriesToJson entries

def tablesToJson : List (List (String × Node)) → List Json
  | [] => []
  | t :: items => .object (entriesToJson t) :: tablesToJson items

end

end Toml
end FleetLifecycle
