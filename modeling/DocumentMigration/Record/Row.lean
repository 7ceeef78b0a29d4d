import DocumentMigration.Record.Change

/-!
Rows, outcomes and reports as JSON.
-/
namespace DocumentMigration

open Json Record

namespace ChangeColumns

def encode (c : ChangeColumns) : List (String × Value) :=
  [("attributes", .ofStrings c.attributes),
    ("attributes_operation", .array (c.operations.map Operation.encode)),
    ("attributes_before", .array c.before), ("attributes_after", .array c.after)]

/-- The columns among the members of a row. The row reports what is missing. -/
def decodeMembers (ms : Object) :
    Decoded (Option (List String) × Option (List Value) × Option (List Value) ×
      Option (List Operation)) := do
  let attributes ← member ms "attributes" (each text)
  let after ← member ms "attributes_after" (each any)
  let before ← member ms "attributes_before" (each any)
  let operations ← member ms "attributes_operation" (each Operation.decode)
  return (attributes, after, before, operations)

def decodeItems (expected : String) : ItemReader ChangeColumns := do
  let attributes ← nextItem expected (each text)
  let operations ← nextItem expected (each Operation.decode)
  let before ← nextItem expected (each any)
  let after ← nextItem expected (each any)
  return { attributes, operations, before, after }

end ChangeColumns

namespace DocumentRow

def encode (r : DocumentRow) : Value :=
  .object ([("collection", .string r.collection), ("document", .string r.document),
    ("operation", r.operation.encode)] ++ r.columns.encode)

def decode : Value → Decoded DocumentRow :=
  record "PreviewRow"
    (fun ms => do
      let (attributes, after, before, operations) ← ChangeColumns.decodeMembers ms
      let collection ← member ms "collection" text
      let document ← member ms "document" text
      let operation ← member ms "operation" Operation.decode
      return { collection := ← required "collection" collection,
               document := ← required "document" document,
               operation := ← required "operation" operation,
               columns := {
                 attributes := ← required "attributes" attributes,
                 operations := ← required "attributes_operation" operations,
                 before := ← required "attributes_before" before,
                 after := ← required "attributes_after" after } })
    (do
      let expected := sized "PreviewRow" 7
      let collection ← nextItem expected text
      let document ← nextItem expected text
      let operation ← nextItem expected Operation.decode
      let columns ← ChangeColumns.decodeItems expected
      return { collection, document, operation, columns })

end DocumentRow

namespace GroupRow

def encode (r : GroupRow) : Value :=
  .object ([("collection", .string r.collection), ("count", .nat r.count),
    ("documents", .ofStrings r.documents), ("operation", r.operation.encode)] ++ r.columns.encode)

def decode : Value → Decoded GroupRow :=
  record "SummaryRow"
    (fun ms => do
      let (attributes, after, before, operations) ← ChangeColumns.decodeMembers ms
      let collection ← member ms "collection" text
      let count ← member ms "count" Record.count
      let documents ← member ms "documents" (each text)
      let operation ← member ms "operation" Operation.decode
      return { collection := ← required "collection" collection,
               count := ← required "count" count,
               documents := ← required "documents" documents,
               operation := ← required "operation" operation,
               columns := {
                 attributes := ← required "attributes" attributes,
                 operations := ← required "attributes_operation" operations,
                 before := ← required "attributes_before" before,
                 after := ← required "attributes_after" after } })
    (do
      let expected := sized "SummaryRow" 8
      let collection ← nextItem expected text
      let count ← nextItem expected Record.count
      let documents ← nextItem expected (each text)
      let operation ← nextItem expected Operation.decode
      let columns ← ChangeColumns.decodeItems expected
      return { collection, count, documents, operation, columns })

end GroupRow

namespace Outcome

def encode (o : Outcome) : Value :=
  .object [("collection_path", .string o.collection), ("operation", o.operation.encode),
    ("written", .nat o.written), ("batches", .nat o.batches)]

def decode : Value → Decoded Outcome :=
  record "MigrationOutcome"
    (fun ms => do
      let batches ← member ms "batches" count
      let collection ← member ms "collection_path" text
      let operation ← member ms "operation" Operation.decode
      let written ← member ms "written" count
      return { collection := ← required "collection_path" collection,
               operation := ← required "operation" operation,
               written := ← required "written" written, batches := ← required "batches" batches })
    (do
      let expected := sized "MigrationOutcome" 4
      let collection ← nextItem expected text
      let operation ← nextItem expected Operation.decode
      let written ← nextItem expected count
      let batches ← nextItem expected count
      return { collection, operation, written, batches })

end Outcome

namespace MigrationReport

def encode (r : MigrationReport) : Value :=
  .object [("previewed", .nat r.previewed), ("applied", .bool r.applied),
    ("outcomes", .array (r.outcomes.map Outcome.encode))]

def decode : Value → Decoded MigrationReport :=
  record "MigrateResponse"
    (fun ms => do
      let applied ← member ms "applied" boolean
      let outcomes ← member ms "outcomes" (each Outcome.decode)
      let previewed ← member ms "previewed" count
      return { previewed := ← required "previewed" previewed,
               applied := ← required "applied" applied,
               outcomes := ← required "outcomes" outcomes })
    (do
      let expected := sized "MigrateResponse" 3
      let previewed ← nextItem expected count
      let applied ← nextItem expected boolean
      let outcomes ← nextItem expected (each Outcome.decode)
      return { previewed, applied, outcomes })

end MigrationReport
end DocumentMigration
