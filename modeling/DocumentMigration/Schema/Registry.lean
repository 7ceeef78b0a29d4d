import DocumentMigration.Schema.Compiled
import DocumentMigration.Schema.Error

/-!
The schemas of this program's own formats, by name.
-/
namespace DocumentMigration.Registry

open Json

/-! Parts of schemas. Members are put in the order of their keys. -/

def build (members : List (String × Value)) : Value := .object (Object.ofList members)

def text (s : String) : Value := .string s

def anything : Value := .bool true

/-- Adds members to a schema object. -/
def extended (schema : Value) (members : List (String × Value)) : Value :=
  build (schema.toObject ++ members)

def described (description : String) (schema : Value) : Value :=
  extended schema [("description", text description)]

def typed (name : String) : Value := build [("type", text name)]

def nullable (name : String) : Value := build [("type", .ofStrings [name, "null"])]

def arrayOf (item : Value) : Value := extended (typed "array") [("items", item)]

/-- An object with any members. -/
def openObject (schema : Value) : Value := extended schema [("additionalProperties", anything)]

def definition (name : String) : Value := build [("$ref", text ("#/$defs/" ++ name))]

def count : Value :=
  extended (typed "integer") [("format", text "uint"), ("minimum", .nat 0)]

def constants (names : List String) : Value :=
  extended (typed "string") [("enum", .ofStrings names)]

def record (properties : List (String × Value)) (required : List String) : Value :=
  extended (typed "object") (("properties", build properties)
    :: (if required.isEmpty then [] else [("required", .ofStrings required)]))

/-- A whole schema document. -/
def document (title : String) (definitions : List (String × Value)) (schema : Value) : Value :=
  extended schema ([("$schema", text "https://json-schema.org/draft/2020-12/schema"),
      ("title", text title)]
    ++ (if definitions.isEmpty then [] else [("$defs", build definitions)]))

/-! Shared definitions. -/

def operation : String × Value :=
  ("ChangeOperation", described "The kind of change a template describes or a diff record carries."
    (constants ["create", "update", "delete"]))

def operationRef : Value := definition "ChangeOperation"

def attributeChange : String × Value :=
  ("AttributeChange",
    described "Result of evaluating one attribute template against one document."
      (record
        [("path", described "Dot path of the attribute (e.g. `\"user.address.city\"`)."
            (typed "string")),
          ("operation", operationRef),
          ("old_value", described
            "Value read at `path` before the change. Populated for update and delete." (build [])),
          ("new_value",
            described "Value written at `path`. Populated for create and update." (build []))]
        ["path", "operation"]))

def changeList : Value :=
  extended (arrayOf (definition "AttributeChange")) [("default", .array [])]

def changeShape : String × Value :=
  ("ChangeShape", described "A `PreviewChange` without its document id."
    (record
      [("operation", operationRef), ("collection_path", typed "string"),
        ("before", openObject (nullable "object")), ("after", openObject (nullable "object")),
        ("changes", changeList)]
      ["operation", "collection_path"]))

def outcome : Value :=
  described "Result of one mutate pass over a collection."
    (record
      [("collection_path", typed "string"), ("operation", operationRef),
        ("written", described "Documents created, updated or deleted." count),
        ("batches", described "Batches committed to the store." count)]
      ["collection_path", "operation", "written", "batches"])

def conditionOp : String × Value :=
  ("ConditionOp", constants ["eq", "ne", "exists", "missing"])

def condition : String × Value :=
  ("Condition", described "A single `where` clause on a dot path."
    (record [("path", typed "string"), ("op", definition "ConditionOp"), ("value", anything)]
      ["path", "op"]))

def scriptAttribute : String × Value :=
  ("ScriptAttribute",
    described "One attribute change. At most one of `value` and `copy_from` may be set."
      (record
        [("path", typed "string"), ("operation", operationRef), ("value", anything),
          ("copy_from", described "Dot path whose current value becomes the new value."
            (nullable "string"))]
        ["path", "operation"]))

def scriptTemplate : String × Value :=
  ("ScriptTemplate", described "One document-level change template."
    (record
      [("operation", operationRef), ("collection", typed "string"),
        ("where", described "Conditions that must all hold for a document to be affected."
          (arrayOf (definition "Condition"))),
        ("attributes", described "Attribute changes. Required for `create` and `update`."
          (extended (nullable "array") [("items", definition "ScriptAttribute")]))]
      ["operation", "collection"]))

/-! The registered documents. -/

def scriptFile : Value :=
  document "ScriptFile" [operation, condition, conditionOp, scriptAttribute, scriptTemplate]
    (described "Top-level contents of a script file."
      (record
        [("description", nullable "string"),
          ("changes", described "Change templates, applied in declaration order."
            (extended (nullable "array")
              [("items", definition "ScriptTemplate"), ("default", .null)]))]
        []))

def documentSnapshot : Value :=
  document "DocumentSnapshot" []
    (described "A document as read from a collection."
      (record [("id", typed "string"), ("data", openObject (typed "object"))] ["id", "data"]))

def previewChange : Value :=
  document "PreviewChange" [operation, attributeChange]
    (described "Result of applying one document-level template to one matched document."
      (record
        [("operation", operationRef), ("document_id", typed "string"),
          ("collection_path", typed "string"),
          ("before", described "Document state before the change. Absent for create."
            (openObject (nullable "object"))),
          ("after", described "Document state after the change. Absent for delete."
            (openObject (nullable "object"))),
          ("changes", changeList)]
        ["operation", "document_id", "collection_path"]))

def summaryGroup : Value :=
  document "PreviewChangeSummaryGroup" [operation, attributeChange, changeShape]
    (described "Structurally identical changes across many documents, collapsed into one shape."
      (record
        [("collection_path", typed "string"), ("document_ids", arrayOf (typed "string")),
          ("change", described "Shape of the first change seen for this group."
            (definition "ChangeShape"))]
        ["collection_path", "document_ids", "change"]))

def rowColumns : List (String × Value) :=
  [("attributes", arrayOf (typed "string")), ("attributes_operation", arrayOf operationRef),
    ("attributes_before", arrayOf anything), ("attributes_after", arrayOf anything)]

def columnNames : List String :=
  ["attributes", "attributes_operation", "attributes_before", "attributes_after"]

def previewRow : Value :=
  document "PreviewRow" [operation]
    (described "One previewed document."
      (record
        ([("collection", typed "string"), ("document", typed "string"), ("operation", operationRef)]
          ++ rowColumns)
        (["collection", "document", "operation"] ++ columnNames)))

def summaryRow : Value :=
  document "SummaryRow" [operation]
    (described "One summary group of identical changes."
      (record
        ([("collection", typed "string"), ("count", count), ("documents", arrayOf (typed "string")),
          ("operation", operationRef)] ++ rowColumns)
        (["collection", "count", "documents", "operation"] ++ columnNames)))

def migrationOutcome : Value := document "MigrationOutcome" [operation] outcome

def migrateResponse : Value :=
  document "MigrateResponse" [operation, ("MigrationOutcome", outcome)]
    (described "Response printed after `docmig migrate` finishes."
      (record
        [("previewed", count), ("applied", typed "boolean"),
          ("outcomes", arrayOf (definition "MigrationOutcome"))]
        ["previewed", "applied", "outcomes"]))

def violationProperties : List (String × Value) :=
  [("keyword", described "Failing schema keyword, e.g. `type` or `required`." (typed "string")),
    ("instance_path", described "JSON pointer into the collection array, e.g. `/0/age`."
      (typed "string")),
    ("schema_path", described
      "Pointer to the failing keyword in the collection schema, `#`-prefixed." (typed "string")),
    ("params", anything), ("message", typed "string")]

def violationRequired : List String :=
  ["keyword", "instance_path", "schema_path", "params", "message"]

def validationError : Value :=
  document "ValidationError" []
    (described "One schema violation at one location of the validated collection."
      (record violationProperties violationRequired))

def mergedValidationError : Value :=
  document "MergedValidationError" []
    (described ("A validation error that occurred at one or more instance paths.\n\n"
        ++ "`error.instance_path` holds the first path until a second occurrence is\n"
        ++ "merged; from then on it is the comma-joined `instance_paths`.")
      (record (violationProperties ++ [("instance_paths", arrayOf (typed "string"))])
        (violationRequired ++ ["instance_paths"])))

/-- Every registered schema, in the order of the names. -/
def schemas : List (String × Value) :=
  [("document_snapshot", documentSnapshot), ("merged_validation_error", mergedValidationError),
    ("migrate_response", migrateResponse), ("migration_outcome", migrationOutcome),
    ("preview_change", previewChange), ("preview_row", previewRow), ("script_file", scriptFile),
    ("summary_group", summaryGroup), ("summary_row", summaryRow),
    ("validation_error", validationError)]

def names : List String := schemas.map (·.1)

def find? (name : String) : Option Value := schemas.lookup name

/-- The texts of all faults of a value under a schema. -/
def errorTexts [Standards] (schema : CompiledSchema) (v : Value) : List String :=
  (schema.faults v).map fun f => f.cause.text

def validate [Standards] (name : String) (v : Value) : Except SchemaError Unit :=
  match find? name with
  | none => .error (.notFound name)
  | some source =>
    match CompiledSchema.ofValue? source with
    | none => .error .invalidSchema
    | some schema =>
      match errorTexts schema v with
      | [] => .ok ()
      | errors => .error (.validationFailed errors)

end DocumentMigration.Registry
