/-!
The ways that schemas and their files fail.
-/
namespace DocumentMigration

inductive SchemaError where
  | notFound (name : String)
  | emptyCollection (collection : String)
  | invalidSchema
  /-- A value that breaks a registered schema, with every text. -/
  | validationFailed (errors : List String)
  | invalidPath (path reason : String)
  | missingFile (path : String)
  | inaccessible (path : String)
  | malformed (path : String)
deriving DecidableEq

def SchemaError.message : SchemaError → String
  | .notFound name => "Schema not found: " ++ name
  | .emptyCollection collection =>
    "Failed to generate schema for collection: " ++ collection
      ++ ". Collection is empty or has no schema."
  | .invalidSchema => "Invalid schema"
  | .validationFailed errors => "Validation failed: " ++ String.intercalate "; " errors
  | .invalidPath path reason => "Invalid path " ++ path ++ ": " ++ reason
  | .missingFile path => "Schema file does not exist: " ++ path
  | .inaccessible path => "I/O error on " ++ path
  | .malformed path => "JSON error in " ++ path

end DocumentMigration
