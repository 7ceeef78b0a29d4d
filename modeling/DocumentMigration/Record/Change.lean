import DocumentMigration.Change.Row
import DocumentMigration.Record.Decode

/-!
Change records and rows as JSON. An encoded record has its fields in declaration order; reading does
not depend on that order.
-/
namespace DocumentMigration

open Json Record

def Operation.encode (o : Operation) : Value := .string o.name

def Operation.decode : Value → Decoded Operation := variant (Operation.all.map fun o => (o.name, o))

/-- The fields that are there, in order. -/
def Record.fields (members : List (String × Option Value)) : Value :=
  .object (members.filterMap fun (k, v) => v.map (k, ·))

namespace Snapshot

def encode (s : Snapshot) : Value := .object [("id", .string s.id), ("data", .object s.data)]

def decode : Value → Decoded Snapshot :=
  record "DocumentSnapshot"
    (fun ms => do
      let data ← member ms "data" document
      let id ← member ms "id" text
      return { id := ← required "id" id, data := ← required "data" data })
    (do
      let expected := sized "DocumentSnapshot" 2
      let id ← nextItem expected text
      let data ← nextItem expected document
      return { id, data })

end Snapshot

namespace AttributeChange

def encode (c : AttributeChange) : Value :=
  Record.fields [("path", some (.string c.path)), ("operation", some c.operation.encode),
    ("old_value", c.oldValue), ("new_value", c.newValue)]

def decode : Value → Decoded AttributeChange :=
  record "AttributeChange"
    (fun ms => do
      let newValue ← member ms "new_value" (nullable any)
      let oldValue ← member ms "old_value" (nullable any)
      let operation ← member ms "operation" Operation.decode
      let path ← member ms "path" text
      return { path := ← required "path" path, operation := ← required "operation" operation,
               oldValue := oldValue.join, newValue := newValue.join })
    (do
      let expected := sized "AttributeChange" 4
      let path ← nextItem expected text
      let operation ← nextItem expected Operation.decode
      let oldValue ← nextItemOr none (nullable any)
      let newValue ← nextItemOr none (nullable any)
      return { path, operation, oldValue, newValue })

end AttributeChange

def encodeChanges (changes : List AttributeChange) : Value :=
  .array (changes.map AttributeChange.encode)

namespace ChangeShape

def encode (s : ChangeShape) : Value :=
  Record.fields [("operation", some s.operation.encode),
    ("collection_path", some (.string s.collection)), ("before", s.before.map .object),
    ("after", s.after.map .object), ("changes", some (encodeChanges s.changes))]

def decode : Value → Decoded ChangeShape :=
  record "ChangeShape"
    (fun ms => do
      let after ← member ms "after" (nullable document)
      let before ← member ms "before" (nullable document)
      let changes ← member ms "changes" (each AttributeChange.decode)
      let collection ← member ms "collection_path" text
      let operation ← member ms "operation" Operation.decode
      return { operation := ← required "operation" operation,
               collection := ← required "collection_path" collection,
               before := before.join, after := after.join, changes := changes.getD [] })
    (do
      let expected := sized "ChangeShape" 5
      let operation ← nextItem expected Operation.decode
      let collection ← nextItem expected text
      let before ← nextItemOr none (nullable document)
      let after ← nextItemOr none (nullable document)
      let changes ← nextItemOr [] (each AttributeChange.decode)
      return { operation, collection, before, after, changes })

end ChangeShape

namespace DocumentChange

def encode (c : DocumentChange) : Value :=
  Record.fields [("operation", some c.operation.encode),
    ("document_id", some (.string c.documentId)),
    ("collection_path", some (.string c.collection)), ("before", c.before.map .object),
    ("after", c.after.map .object), ("changes", some (encodeChanges c.changes))]

def decode : Value → Decoded DocumentChange :=
  record "PreviewChange"
    (fun ms => do
      let after ← member ms "after" (nullable document)
      let before ← member ms "before" (nullable document)
      let changes ← member ms "changes" (each AttributeChange.decode)
      let collection ← member ms "collection_path" text
      let documentId ← member ms "document_id" text
      let operation ← member ms "operation" Operation.decode
      return { operation := ← required "operation" operation,
               documentId := ← required "document_id" documentId,
               collection := ← required "collection_path" collection,
               before := before.join, after := after.join, changes := changes.getD [] })
    (do
      let expected := sized "PreviewChange" 6
      let operation ← nextItem expected Operation.decode
      let documentId ← nextItem expected text
      let collection ← nextItem expected text
      let before ← nextItemOr none (nullable document)
      let after ← nextItemOr none (nullable document)
      let changes ← nextItemOr [] (each AttributeChange.decode)
      return { operation, documentId, collection, before, after, changes })

end DocumentChange

namespace ChangeGroup

def encode (g : ChangeGroup) : Value :=
  .object [("collection_path", .string g.collection), ("document_ids", .ofStrings g.documentIds),
    ("change", g.change.encode)]

def decode : Value → Decoded ChangeGroup :=
  record "PreviewChangeSummaryGroup"
    (fun ms => do
      let change ← member ms "change" ChangeShape.decode
      let collection ← member ms "collection_path" text
      let documentIds ← member ms "document_ids" (each text)
      return { collection := ← required "collection_path" collection,
               documentIds := ← required "document_ids" documentIds,
               change := ← required "change" change })
    (do
      let expected := sized "PreviewChangeSummaryGroup" 3
      let collection ← nextItem expected text
      let documentIds ← nextItem expected (each text)
      let change ← nextItem expected ChangeShape.decode
      return { collection, documentIds, change })

end ChangeGroup
end DocumentMigration
