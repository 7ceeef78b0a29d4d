import DocumentMigration.Change.Apply
import DocumentMigration.Script.Basic
import DocumentMigration.Record.Decode
import DocumentMigration.Store.Error

/-!
The ways a migration fails: its contract, its script, a value, a path or the store.
-/
namespace DocumentMigration

/-- What is wrong with a script. -/
inductive ScriptFault where
  | unsupportedFile (path : String)
  | malformed
  | violates (errors : List String)
  | undecodable (error : Record.DecodeError)
  | needsValue (collection : String) (condition : Condition)
  | takesNoValue (collection : String) (condition : Condition)
  | twoSources (path : String)
  | bothShapes
  | halfCustom
  | noShape

def ScriptFault.message : ScriptFault → String
  | .unsupportedFile path => "unsupported script file " ++ path ++ " (expected .toml or .json)"
  | .malformed => "not well formed"
  | .violates errors => String.intercalate "; " errors
  | .undecodable error => error.message
  | .needsValue collection c =>
    "condition `" ++ c.comparison.name ++ "` on '" ++ c.path ++ "' in " ++ collection
      ++ " needs a `value`"
  | .takesNoValue collection c =>
    "condition `" ++ c.comparison.name ++ "` on '" ++ c.path ++ "' in " ++ collection
      ++ " does not take a `value`"
  | .twoSources path => "attribute '" ++ path ++ "' sets both `value` and `copy_from`"
  | .bothShapes => "exports both `changes` and custom `preview`/`migrate` functions"
  | .halfCustom => "`preview` and `migrate` must be provided together"
  | .noShape => "must export either `changes` or both `preview` and `migrate`"

inductive MigrationError where
  | wrongOperation (found expected : Operation)
  | missingChanges (operation : Operation)
  | attributeOperation (path : String) (found : Operation)
  | valueFailed (path reason : String)
  | invalidScript (fault : ScriptFault)
  | unreadableScript (path : String)
  | pathError (error : PathError)
  | storeError (error : StoreError)

namespace MigrationError

def message : MigrationError → String
  | .wrongOperation found expected =>
    "Invalid operation type: " ++ found.name ++ " (expected " ++ expected.name ++ ")"
  | .missingChanges operation => "Missing changes for " ++ operation.name ++ " template"
  | .attributeOperation path found =>
    "Invalid operation type: " ++ found.name ++ " on attribute '" ++ path
      ++ "' of a create template"
  | .valueFailed path reason => "Value callback for '" ++ path ++ "' failed: " ++ reason
  | .invalidScript fault => "Invalid migration script: " ++ fault.message
  | .unreadableScript path => "Cannot read script " ++ path
  | .pathError error => error.message
  | .storeError error => "Store error: " ++ error.message

/-- The message, then that of each deeper cause. -/
def causes (e : MigrationError) : List String :=
  match e with
  | .valueFailed _ reason => [e.message, reason]
  | .storeError error => [e.message, error.message]
  | _ => [e.message]

end MigrationError
end DocumentMigration
