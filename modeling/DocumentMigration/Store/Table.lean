import DocumentMigration.Store.Basic
import DocumentMigration.Store.DocumentText
import DocumentMigration.Store.Identifier

/-!
A store in one table, with a row for each document and its body as text. Rows stand in the order of
their row numbers: a new row comes last, and an overwritten one keeps its place. A batch runs as one
transaction.
-/
namespace DocumentMigration

open Json

structure Row where
  collection : String
  id : String
  body : String
deriving DecidableEq

structure TableStore where
  rows : List Row := []
  ids : IdSource := ⟨0⟩

namespace TableStore

def Row.isAt (collection id : String) (r : Row) : Bool := r.collection = collection && r.id = id

/-- Overwrites the bodies of the matching rows and answers how many there were. -/
def updateRows (collection id body : String) (rows : List Row) : List Row × Nat :=
  (rows.map fun r => if Row.isAt collection id r then { r with body } else r,
    rows.countP (Row.isAt collection id))

def upsert (collection id body : String) (rows : List Row) : List Row :=
  match updateRows collection id body rows with
  | (_, 0) => rows ++ [⟨collection, id, body⟩]
  | (updated, _) => updated

def deleteRows (collection id : String) (rows : List Row) : List Row :=
  rows.filter fun r => !Row.isAt collection id r

def applyWrite (collection : String) (rows : List Row) : Write → Except StoreError (List Row)
  | .set id data => .ok (upsert collection id (encodeDocument data) rows)
  | .update id data =>
    match updateRows collection id (encodeDocument data) rows with
    | (_, 0) => .error (.notFound collection id)
    | (updated, _) => .ok updated
  | .delete id => .ok (deleteRows collection id rows)

/-- What a column gives back: its text up to the first null character. Rows are found by the whole
text. -/
def columnText (text : String) : String := String.ofList (text.toList.takeWhile (· ≠ '\x00'))

/-- The document of a row under an id. -/
def readAs [FloatReader] (id : String) (r : Row) : Except StoreError Snapshot :=
  (parseDocument r.collection id (columnText r.body)).map fun data => ⟨id, data⟩

def readRow [FloatReader] (r : Row) : Except StoreError Snapshot := readAs (columnText r.id) r

def list [FloatReader] (collection : String) : Action TableStore StoreError (List Snapshot) := do
  let rows := (← get).rows.filter (·.collection = collection)
  ExceptT.mk (pure (rows.mapM readRow))

def find [FloatReader] (collection id : String) :
    Action TableStore StoreError (Option Snapshot) := do
  match (← get).rows.find? (Row.isAt collection id) with
  | some r => ExceptT.mk (pure ((readAs id r).map some))
  | none => return none

def allocate (collection : String) : Action TableStore StoreError String := do
  let s ← get
  let taken := (s.rows.filter (·.collection = collection)).map (·.id)
  let (id, ids) := s.ids.draw taken
  set { s with ids }
  return id

def commit (batch : Batch) : Action TableStore StoreError Unit := do
  let s ← get
  match batch.writes.foldlM (applyWrite batch.collection) s.rows with
  | .error e => throw e
  | .ok rows => set { s with rows }

/-- Puts a row with any text for its body straight into the table. -/
def insertText (collection id body : String) (s : TableStore) : TableStore :=
  { s with rows := upsert collection id body s.rows }

instance [FloatReader] : DocumentStore TableStore := ⟨list, find, allocate, commit⟩

end TableStore
end DocumentMigration
