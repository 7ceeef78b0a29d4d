import DocumentMigration.Change.Operation
import DocumentMigration.Json.Object

/-!
Change records: what one template does to one attribute, to one document, and to a group of
documents alike. They are values; nothing here writes.
-/
namespace DocumentMigration

open Json

structure Snapshot where
  id : String
  data : Object

/-- An absent value differs from a present null. -/
structure AttributeChange where
  path : String
  operation : Operation
  oldValue : Option Value := none
  newValue : Option Value := none

/-- The shape of a change: everything but the id of the document. -/
structure ChangeShape where
  operation : Operation
  collection : String
  before : Option Object := none
  after : Option Object := none
  changes : List AttributeChange := []

structure DocumentChange where
  operation : Operation
  documentId : String
  collection : String
  before : Option Object := none
  after : Option Object := none
  changes : List AttributeChange := []

namespace DocumentChange

def changedPaths (c : DocumentChange) : List String := c.changes.map (·.path)

def shape (c : DocumentChange) : ChangeShape :=
  { operation := c.operation, collection := c.collection, before := c.before, after := c.after,
    changes := c.changes }

end DocumentChange

/-- Changes of one kind to many documents, with the shape of the first. -/
structure ChangeGroup where
  collection : String
  documentIds : List String
  change : ChangeShape

end DocumentMigration
