import DocumentMigration.Json.Parser
import DocumentMigration.Json.Printer
import DocumentMigration.Store.Error

/-!
Document bodies as the text that a table keeps.
-/
namespace DocumentMigration

open Json

def encodeDocument (data : Object) : String := (Value.object data).compact

/-- Reads a stored body, which has to be one JSON object within the nesting limit. -/
def parseDocument [FloatReader] (collection id text : String) : Except StoreError Object :=
  match Value.parse? text with
  | some (.object data) => .ok data
  | some other => .error (.invalidDocument collection id (.notObject other.kindName))
  | none => .error (.invalidDocument collection id .malformed)

end DocumentMigration
