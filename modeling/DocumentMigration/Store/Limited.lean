import DocumentMigration.Store.Basic

/-!
A store that stops taking batches after a number of attempts and goes on serving reads.
-/
namespace DocumentMigration

structure Limited (σ : Type) where
  store : σ
  /-- Attempts that are still let through; none sets no limit. -/
  allowed : Option Nat := none

namespace Limited

variable {σ : Type} [DocumentStore σ]

/-- Runs an action of the store behind the limit. -/
def inner (action : Action σ ε α) : Action (Limited σ) ε α := fun s =>
  let (result, store) := action.run s.store
  (result, { s with store })

def commit (batch : Batch) : Action (Limited σ) StoreError Unit := do
  match (← get).allowed with
  | some 0 => throw (.batchRejected batch.collection "read-only")
  | some (n + 1) =>
    modify fun s => { s with allowed := some n }
    inner (DocumentStore.commit batch)
  | none => inner (DocumentStore.commit batch)

instance : DocumentStore (Limited σ) where
  list collection := inner (DocumentStore.list collection)
  find collection id := inner (DocumentStore.find collection id)
  allocate collection := inner (DocumentStore.allocate collection)
  commit := commit

end Limited
end DocumentMigration
