import DocumentMigration.Change.Basic

/-!
What a reader of a migration is shown: one row for each previewed document or each group, the
outcome of each template, and the report of a whole run.
-/
namespace DocumentMigration

open Json

/-- Attribute changes side by side; an absent value shows as null. -/
structure ChangeColumns where
  attributes : List String
  operations : List Operation
  before : List Value
  after : List Value

def ChangeColumns.ofChanges (changes : List AttributeChange) : ChangeColumns where
  attributes := changes.map (·.path)
  operations := changes.map (·.operation)
  before := changes.map fun c => c.oldValue.getD .null
  after := changes.map fun c => c.newValue.getD .null

structure DocumentRow where
  collection : String
  document : String
  operation : Operation
  columns : ChangeColumns

def DocumentChange.row (c : DocumentChange) : DocumentRow :=
  ⟨c.collection, c.documentId, c.operation, .ofChanges c.changes⟩

structure GroupRow where
  collection : String
  count : Nat
  documents : List String
  operation : Operation
  columns : ChangeColumns

def ChangeGroup.row (g : ChangeGroup) : GroupRow :=
  ⟨g.collection, g.documentIds.length, g.documentIds, g.change.operation,
    .ofChanges g.change.changes⟩

/-- What one template wrote: documents, and the batches that carried them. -/
structure Outcome where
  collection : String
  operation : Operation
  written : Nat
  batches : Nat
deriving DecidableEq

structure MigrationReport where
  previewed : Nat
  applied : Bool
  outcomes : List Outcome

end DocumentMigration
