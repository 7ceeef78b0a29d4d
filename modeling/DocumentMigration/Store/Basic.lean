import DocumentMigration.Store.Batch
import DocumentMigration.Store.Error

/-!
What the rest of the library asks of a document store. An action answers or fails, and in both cases
says in which state it leaves the store.
-/
namespace DocumentMigration

open Json

abbrev Action (σ ε α : Type) := ExceptT ε (StateM σ) α

def Action.run (action : Action σ ε α) (s : σ) : Except ε α × σ := ExceptT.run action s

class DocumentStore (σ : Type) where
  /-- Every document of a collection, in a stable order. -/
  list (collection : String) : Action σ StoreError (List Snapshot)
  find (collection id : String) : Action σ StoreError (Option Snapshot)
  /-- An id that no document of the collection has. -/
  allocate (collection : String) : Action σ StoreError String
  /-- Performs every write of a batch, or none of them. -/
  commit (batch : Batch) : Action σ StoreError Unit

namespace DocumentStore

variable {σ : Type} [DocumentStore σ]

/-- Writes one document in a batch of its own. -/
def setDocument (collection id : String) (data : Object) : Action σ StoreError Unit :=
  commit { collection, writes := [.set id data] }

end DocumentStore
end DocumentMigration
