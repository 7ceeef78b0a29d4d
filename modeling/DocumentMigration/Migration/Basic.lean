import DocumentMigration.Change.Row
import DocumentMigration.Store.Basic
import DocumentMigration.Template.Compile
import DocumentMigration.Template.Evaluate

/-!
Previewing and applying templates against a store. A preview only reads. Applying reads the
collection again, works out every write, and only then commits, batch by batch.
-/
namespace DocumentMigration

variable {σ : Type} [DocumentStore σ]

def fromStore (action : Action σ StoreError α) : Action σ MigrationError α := fun s =>
  match action.run s with
  | (.ok a, s) => (.ok a, s)
  | (.error e, s) => (.error (.storeError e), s)

namespace CompiledTemplate

def accepted (t : CompiledTemplate) : Action σ MigrationError (List Snapshot) := do
  let documents ← fromStore (DocumentStore.list t.collection)
  return documents.filter fun s => t.accepts s.data

/-- A create template shows a row for each accepted document, though it adds just one. -/
def preview (t : CompiledTemplate) : Action σ MigrationError (List DocumentChange) := do
  let documents ← t.accepted
  ExceptT.mk (pure (documents.mapM t.previewOne))

def staged (t : CompiledTemplate) : Action σ MigrationError (List Write) := do
  match t.operation with
  | .create =>
    let data ← ExceptT.mk (pure t.newDocument)
    let id ← fromStore (DocumentStore.allocate t.collection)
    return [.set id data]
  | _ =>
    let documents ← t.accepted
    let writes ← ExceptT.mk (pure (documents.mapM t.stageOne))
    return writes.flatten

/-- Commits batches in order up to the first that fails; what came before it stays. -/
def commitAll : List Batch → Outcome → Action σ MigrationError Outcome
  | [], outcome => return outcome
  | batch :: rest, outcome => do
    fromStore (DocumentStore.commit batch)
    commitAll rest
      { outcome with written := outcome.written + batch.size, batches := outcome.batches + 1 }

def migrate (t : CompiledTemplate) (maxBatchSize : Nat) : Action σ MigrationError Outcome := do
  let writes ← t.staged
  let batch : Batch := { collection := t.collection, writes }
  commitAll (batch.chunks maxBatchSize) ⟨t.collection, t.operation, 0, 0⟩

end CompiledTemplate

/-- The most writes of a batch, and the default. -/
def batchSizeLimit : Nat := 500

def previewAll (templates : List Template) : Action σ MigrationError (List DocumentChange) := do
  let compiled ← ExceptT.mk (pure (Template.compileAll templates))
  return (← compiled.mapM fun t => t.preview).flatten

/-- Applies the templates in order; each one sees what those before it wrote. -/
def migrateAll (templates : List Template) (maxBatchSize : Nat) :
    Action σ MigrationError (List Outcome) := do
  let compiled ← ExceptT.mk (pure (Template.compileAll templates))
  compiled.mapM fun t => t.migrate maxBatchSize

structure Migration (σ : Type) where
  preview : Action σ MigrationError (List DocumentChange)
  migrate (maxBatchSize : Nat) : Action σ MigrationError (List Outcome)

def Migration.ofTemplates (templates : List Template) : Migration σ where
  preview := previewAll templates
  migrate := migrateAll templates

end DocumentMigration
