import DocumentMigration.Json.Object

/-!
Tables under construction. A table remembers whether a header or key defined it or whether it only
came about on the way to another one, because what is defined may not be defined again.
-/
namespace DocumentMigration.Toml

open Json

inductive Node where
  | value (v : Value)
  /-- An implicit table has no header of its own; a dotted one was made by a dotted key. -/
  | table (implicit dotted : Bool) (entries : List (String × Node))
  /-- An array of tables, latest first. -/
  | tables (latest : List (String × Node)) (earlier : List (List (String × Node)))

abbrev Entries := List (String × Node)

namespace Node

mutual
def toValue : Node → Value
  | .value v => v
  | .table _ _ entries => .object (Object.ofList (entryValues entries))
  | .tables latest earlier =>
    .array (tableValues earlier ++ [.object (Object.ofList (entryValues latest))])

def entryValues : List (String × Node) → List (String × Value)
  | [] => []
  | (k, n) :: rest => (k, toValue n) :: entryValues rest

/-- Earlier tables in their order; they are kept in reverse. -/
def tableValues : List (List (String × Node)) → List Value
  | [] => []
  | entries :: rest => tableValues rest ++ [.object (Object.ofList (entryValues entries))]
end

end Node

namespace Entries

def find? (key : String) (entries : Entries) : Option Node := entries.lookup key

def put (key : String) (node : Node) : Entries → Entries
  | [] => [(key, node)]
  | (k, n) :: rest => if k = key then (k, node) :: rest else (k, n) :: put key node rest

def erase (key : String) (entries : Entries) : Entries := entries.filter (·.1 ≠ key)

def toValue (entries : Entries) : Value := (Node.table false false entries).toValue

/-- Edits the table at a path. Tables that are missing on the way come about implicitly. A dotted
key may not reach into a table that has a definition of its own. The edit learns whether the table
it gets was made by a dotted key. -/
def editAt (dotted : Bool) (edit : Bool → Entries → Option Entries) :
    List String → Bool → Entries → Option Entries
  | [], isDotted, entries => edit isDotted entries
  | key :: path, _, entries =>
    match entries.find? key with
    | none => do
      let inner ← editAt dotted edit path dotted []
      return entries.put key (.table true dotted inner)
    | some (.value _) => none
    | some (.tables latest earlier) => do
      let inner ← editAt dotted edit path false latest
      return entries.put key (.tables inner earlier)
    | some (.table implicit wasDotted inner) =>
      if dotted && !implicit then none else do
        let inner ← editAt dotted edit path wasDotted inner
        return entries.put key (.table implicit wasDotted inner)

/-- Adds a value under a key that may be dotted. A plain key belongs in a table with a header, a
dotted one in a table that dotted keys made. -/
def insertKey (key : List String) (v : Value) (entries : Entries) : Option Entries :=
  let path := key.dropLast
  let last := key.getLastD ""
  editAt true (fun isDotted entries =>
    if isDotted = path.isEmpty ∨ (entries.find? last).isSome then none
    else some (entries.put last (.value v))) path false entries

end Entries

/-- The document so far, with the table that the last header opened kept apart. -/
structure Draft where
  root : Entries := []
  current : Entries := []
  /-- The place of the current table; the root is at the empty path. -/
  path : List String := []
  inArray : Bool := false

namespace Draft

/-- Puts the current table back to its place. -/
def close (d : Draft) : Option Entries :=
  match d.path with
  | [] => some d.current
  | path =>
    let last := path.getLastD ""
    Entries.editAt false (fun _ parent =>
      if d.inArray then
        match parent.find? last with
        | none => some (parent.put last (.tables d.current []))
        | some (.tables latest earlier) =>
          some (parent.put last (.tables d.current (latest :: earlier)))
        | some _ => none
      else
        match parent.find? last with
        | none => some (parent.put last (.table false false d.current))
        | some _ => none) path.dropLast false d.root

/-- What stands at a path, after the tables on the way have come about. -/
def lookAt (path : List String) (root : Entries) : Option (Option Node) := do
  let rec walk : List String → Entries → Option (Option Node)
    | [], _ => some none
    | [key], entries => some (entries.find? key)
    | key :: rest, entries =>
      match entries.find? key with
      | none => some none
      | some (.value _) => none
      | some (.tables latest _) => walk rest latest
      | some (.table _ _ inner) => walk rest inner
  walk path root

/-- Opens a table by its header. Only a table that came about implicitly, and not by a dotted key,
may still get one. -/
def openTable (path : List String) (d : Draft) : Option Draft := do
  let root ← d.close
  match (← lookAt path root) with
  | none => return { root, current := [], path }
  | some (.table true false entries) =>
    let last := path.getLastD ""
    let without (_ : Bool) (parent : Entries) : Option Entries := some (parent.erase last)
    let root ← Entries.editAt false without path.dropLast false root
    return { root, current := entries, path }
  | some _ => none

/-- Opens a further table of an array of tables. -/
def openElement (path : List String) (d : Draft) : Option Draft := do
  let root ← d.close
  match (← lookAt path root) with
  | none | some (.tables ..) => return { root, current := [], path, inArray := true }
  | some _ => none

def insert (key : List String) (v : Value) (d : Draft) : Option Draft :=
  (d.current.insertKey key v).map fun current => { d with current }

end Draft
end DocumentMigration.Toml
