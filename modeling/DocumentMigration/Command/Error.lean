import DocumentMigration.Config.Basic
import DocumentMigration.Migration.Run
import DocumentMigration.Schema.Error
import DocumentMigration.Schema.Registry

/-!
The ways that a command fails, each with the texts from the outermost cause to the innermost.
-/
namespace DocumentMigration

def RunError.causes : RunError → List String
  | .previewFailed e => "preview failed" :: e.causes
  | .migrationFailed e => "migration failed" :: e.causes
  | .answerFailed text => [text]

inductive CommandError where
  | settings (error : ConfigError)
  /-- A configured output format that does not exist. -/
  | unknownFormat (name : String)
  | unknownSchema (name : String)
  | storeNotOpened (location : String) (error : StoreError)
  | scriptNotLoaded (location : String) (error : MigrationError)
  | runFailed (error : RunError)
  | collectionNotRead (collection : String) (error : StoreError)
  | schemaFailed (error : SchemaError)
  /-- A file whose schema is not one. -/
  | schemaNotCompiled (location : String) (error : SchemaError)

namespace CommandError

def causes : CommandError → List String
  | .settings e => ["failed to load docmig configuration", e.message]
  | .unknownFormat name => ["invalid general.default_format: invalid variant: " ++ name]
  | .unknownSchema name =>
    ["unknown schema '" ++ name ++ "' (available: "
      ++ String.intercalate ", " Registry.names ++ ")"]
  | .storeNotOpened location e => ["failed to open document store at " ++ location, e.message]
  | .scriptNotLoaded location e => ("failed to load migration script " ++ location) :: e.causes
  | .runFailed e => e.causes
  | .collectionNotRead collection e => ["failed to read collection " ++ collection, e.message]
  | .schemaFailed e => [e.message]
  | .schemaNotCompiled location e => ["schema " ++ location ++ " does not compile", e.message]

def message (e : CommandError) : String := String.intercalate ": " e.causes

end CommandError
end DocumentMigration
