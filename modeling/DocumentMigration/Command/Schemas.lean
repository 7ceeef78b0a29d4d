import DocumentMigration.Command.Desk
import DocumentMigration.Schema.Collection
import DocumentMigration.Schema.Files
import DocumentMigration.Schema.Infer

/-!
The commands on schemas: showing the schemas of this library's own records, exporting the inferred
schemas of collections, and validating collections against schemas in files.
-/
namespace DocumentMigration

open Json

/-- A schema of the registry, or without a name the names of all. -/
def shownSchema : Option String → Except CommandError Value
  | none => .ok (.ofStrings Registry.names)
  | some name =>
    match Registry.find? name with
    | some schema => .ok schema
    | none => .error (.unknownSchema name)

structure ExportedSchema where
  collection : String
  documents : Nat
  path : String
deriving DecidableEq

def ExportedSchema.encode (e : ExportedSchema) : Value :=
  .object [("collection", .string e.collection), ("documents", .nat e.documents),
    ("path", .string e.path)]

structure CollectionReport where
  collection : String
  documents : Nat
  errors : Nat
  /-- The file of the schema. -/
  schema : String
deriving DecidableEq

namespace CollectionReport

def isValid (r : CollectionReport) : Bool := r.errors = 0

def encode (r : CollectionReport) : Value :=
  .object [("collection", .string r.collection), ("documents", .nat r.documents),
    ("valid", .bool r.isValid), ("errors", .nat r.errors), ("schema", .string r.schema)]

end CollectionReport

variable {σ : Type} [DocumentStore σ]

def exportSchema (output collection : String) : Work σ ExportedSchema := do
  let documents ← Work.documents collection
  let schema ← Work.orFail (inferItemSchema collection documents)
  let path := SchemaFiles.collectionFile (← get).files output collection
  Work.onFiles (SchemaFiles.write path schema)
  return ⟨collection, documents.length, path⟩

/-- Exports collections in order, up to the first that fails. -/
def exportCollections (collections : List String) (output : String) :
    Work σ (List ExportedSchema) := do
  Work.orFail (SchemaFiles.requireFolder (← get).files output collections "exporting")
  collections.mapM (exportSchema output)

/-- The violations of a collection, and a report on them. -/
def validateOne [FloatReader] [Standards] (schemas collection : String) :
    Work σ (CollectionReport × List Violation) := do
  let documents ← Work.documents collection
  let path := SchemaFiles.collectionFile (← get).files schemas collection
  let schema ← Work.orFail (SchemaFiles.read (← get).files path)
  match validateCollection schema documents with
  | .error e => throw (.schemaNotCompiled path e)
  | .ok violations =>
    return (⟨collection, documents.length, violations.length, path⟩, violations)

/-- Tells how a validation went. Its violations, merged, are for verbose runs. -/
def tell (manner : Manner) (collection : String) (violations : List Violation) : Work σ Unit := do
  if violations.isEmpty then
    Work.note manner ("Validation succeeded for collection " ++ collection ++ ".")
  else
    Work.note manner ("Validation failed for collection " ++ collection ++ ": found "
      ++ toString violations.length ++ " errors.")
    if manner.verbose then
      for merged in mergeViolations violations do
        Work.print (.aside (merged.encode.pretty ++ "\n"))

structure Validation where
  reports : List CollectionReport
  /-- The violations of each collection, in the order of the request. -/
  violations : List (String × List Violation)
  /-- The files that the violations were written to. -/
  written : List String

/-- Nothing is written before all collections are validated. -/
def validateCollections [FloatReader] [Standards] (collections : List String) (schemas : String)
    (output : Option String) (summary : Bool) (manner : Manner) : Work σ Validation := do
  if let some folder := output then
    Work.orFail
      (SchemaFiles.requireFolder (← get).files folder collections "writing errors for")
  let checked ← collections.mapM fun collection => do
    let (report, violations) ← validateOne schemas collection
    tell manner collection violations
    return (report, collection, violations)
  let violations := checked.map (·.2)
  let written ← match output with
    | none => pure []
    | some output => Work.onFiles (SchemaFiles.writeViolations output violations summary)
  return ⟨checked.map (·.1), violations, written⟩

end DocumentMigration
