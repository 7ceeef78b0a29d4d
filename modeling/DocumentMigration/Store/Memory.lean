import DocumentMigration.Store.Basic
import DocumentMigration.Store.Identifier

/-!
A store in memory. Collections keep the order of insertion, and the store counts the reads it served
and the batches it took.
-/
namespace DocumentMigration

open Json

/-- Collections by name, each with its documents in order. -/
abbrev Collections := List (String × List Snapshot)

namespace Collections

def documents (collection : String) (cs : Collections) : List Snapshot :=
  (cs.lookup collection).getD []

def put (collection : String) (documents : List Snapshot) : Collections → Collections
  | [] => [(collection, documents)]
  | (name, old) :: rest =>
    if name = collection then (name, documents) :: rest
    else (name, old) :: put collection documents rest

end Collections

structure MemoryStore where
  collections : Collections := []
  reads : Nat := 0
  commits : Nat := 0
  ids : IdSource := ⟨0⟩

namespace MemoryStore

def ofCollection (collection : String) (documents : List Snapshot) (ids : IdSource) : MemoryStore :=
  { collections := [(collection, documents)], ids }

/-- Gives the first document of an id a new body; none when there is no such document. -/
def replace? (id : String) (data : Object) : List Snapshot → Option (List Snapshot)
  | [] => none
  | s :: rest =>
    if s.id = id then some (⟨s.id, data⟩ :: rest) else (replace? id data rest).map (s :: ·)

def remove (id : String) : List Snapshot → List Snapshot
  | [] => []
  | s :: rest => if s.id = id then rest else s :: remove id rest

def stageOne (collection : String) (documents : List Snapshot) :
    Write → Except StoreError (List Snapshot)
  | .set id data => .ok ((replace? id data documents).getD (documents ++ [⟨id, data⟩]))
  | .update id data =>
    match replace? id data documents with
    | some staged => .ok staged
    | none => .error (.notFound collection id)
  | .delete id => .ok (remove id documents)

/-- The documents after a batch, worked out on a copy. -/
def stage (batch : Batch) (documents : List Snapshot) : Except StoreError (List Snapshot) :=
  batch.writes.foldlM (stageOne batch.collection) documents

def list (collection : String) : Action MemoryStore StoreError (List Snapshot) := do
  modify fun s => { s with reads := s.reads + 1 }
  return (← get).collections.documents collection

def find (collection id : String) : Action MemoryStore StoreError (Option Snapshot) := do
  return (← list collection).find? (·.id = id)

def allocate (collection : String) : Action MemoryStore StoreError String := do
  let s ← get
  let (id, ids) := s.ids.draw ((s.collections.documents collection).map (·.id))
  set { s with ids }
  return id

def commit (batch : Batch) : Action MemoryStore StoreError Unit := do
  let s ← get
  match stage batch (s.collections.documents batch.collection) with
  | .error e => throw e
  | .ok documents =>
    set { s with
      collections := s.collections.put batch.collection documents
      commits := s.commits + 1 }

instance : DocumentStore MemoryStore := ⟨list, find, allocate, commit⟩

end MemoryStore
end DocumentMigration
