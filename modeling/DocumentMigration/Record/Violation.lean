import DocumentMigration.Record.Decode
import DocumentMigration.Schema.Violation

/-!
Violations as JSON. A merged one has the members of its violation beside its own and is never
written as an array.
-/
namespace DocumentMigration

open Json Record

namespace Violation

def members (v : Violation) : List (String × Value) :=
  [("keyword", .string v.keyword), ("instance_path", .string v.instancePath),
    ("schema_path", .string v.schemaPath), ("params", v.params), ("message", .string v.message)]

def encode (v : Violation) : Value := .object v.members

def decodeMembers (ms : Object) : Decoded Violation := do
  let instancePath ← member ms "instance_path" text
  let keyword ← member ms "keyword" text
  let message ← member ms "message" text
  let params ← member ms "params" any
  let schemaPath ← member ms "schema_path" text
  return { keyword := ← required "keyword" keyword,
           instancePath := ← required "instance_path" instancePath,
           schemaPath := ← required "schema_path" schemaPath,
           params := ← required "params" params, message := ← required "message" message }

def decode : Value → Decoded Violation :=
  record "ValidationError" decodeMembers
    (do
      let expected := sized "ValidationError" 5
      let keyword ← nextItem expected text
      let instancePath ← nextItem expected text
      let schemaPath ← nextItem expected text
      let params ← nextItem expected any
      let message ← nextItem expected text
      return { keyword, instancePath, schemaPath, params, message })

end Violation

namespace MergedViolation

def encode (m : MergedViolation) : Value :=
  .object (m.violation.members ++ [("instance_paths", .ofStrings m.instancePaths)])

def decode : Value → Decoded MergedViolation
  | .object ms => do
    let instancePaths ← member ms "instance_paths" (each text)
    let violation ← Violation.decodeMembers ms
    return { violation, instancePaths := ← required "instance_paths" instancePaths }
  | v => .error (.wrongType (describe v) "struct MergedValidationError")

end MergedViolation
end DocumentMigration
