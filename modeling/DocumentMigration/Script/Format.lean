import DocumentMigration.Files.Location
import DocumentMigration.Json.Parser
import DocumentMigration.Migration.Error
import DocumentMigration.Toml.Parser

/-!
The formats of script files, told apart by the extension of the name.
-/
namespace DocumentMigration

open Json

inductive ScriptFormat where
  | toml
  | json
deriving DecidableEq

namespace ScriptFormat

def ofLocation (location : String) : Except ScriptFault ScriptFormat :=
  match (Location.extension? location).map Text.lowerAscii with
  | some "toml" => .ok .toml
  | some "json" => .ok .json
  | _ => .error (.unsupportedFile location)

/-- Reads a text as a value. -/
def read? [FloatReader] : ScriptFormat → String → Option Value
  | .toml, text => Toml.parse? text
  | .json, text => Value.parse? text

end ScriptFormat
end DocumentMigration
