import DocumentMigration.Change.Basic
import DocumentMigration.Schema.Compiled
import DocumentMigration.Schema.Error
import DocumentMigration.Schema.Violation

/-!
Checking whole collections against the schema of one document. A violation names the keyword and
what the schema says there rather than the offending value, so that one broken rule reads the same
in every document.
-/
namespace DocumentMigration

open Json

def collectionSchema (item : Value) : Value :=
  .object [("items", item), ("type", .string "array")]

namespace Violation

/-- A parameter in a message: strings as they are, other values as text. -/
def parameterText : Option Value → String
  | some (.string s) => s
  | some other => other.compact
  | none => ""

def commonMessage? (keyword : String) (params : Object) : Option String :=
  let param := params.get? keyword
  let text := parameterText param
  match keyword with
  | "type" =>
    let types := match param with
      | some (.array items) => String.intercalate "," (items.map fun t => parameterText (some t))
      | _ => text
    some ("must be " ++ types)
  | "required" =>
    some ("must have required property '" ++ parameterText (params.get? "missingProperty") ++ "'")
  | "additionalProperties" => some "must NOT have additional properties"
  | "enum" => some "must be equal to one of the allowed values"
  | "const" => some "must be equal to constant"
  | "minimum" => some ("must be >= " ++ text)
  | "maximum" => some ("must be <= " ++ text)
  | "exclusiveMinimum" => some ("must be > " ++ text)
  | "exclusiveMaximum" => some ("must be < " ++ text)
  | "minLength" => some ("must NOT have fewer than " ++ text ++ " characters")
  | "maxLength" => some ("must NOT have more than " ++ text ++ " characters")
  | "minItems" => some ("must NOT have fewer than " ++ text ++ " items")
  | "maxItems" => some ("must NOT have more than " ++ text ++ " items")
  | "pattern" => some ("must match pattern \"" ++ text ++ "\"")
  | "format" => some ("must match format \"" ++ text ++ "\"")
  | _ => none

/-- The last segment of a schema path as the path writes it. -/
def keywordOf (schemaPath : List String) : String :=
  let last := Pointer.escape (schemaPath.getLastD "")
  if last.isEmpty then "schema" else last

/-- What the schema says at the failing place. Nothing is found behind a reference. -/
def paramsOf (schema : Value) (f : Fault) : Object :=
  match f.cause with
  | .missing property => [("missingProperty", .string property)]
  | .unexpected names => [("additionalProperties", .ofStrings names)]
  | _ => [(keywordOf f.place.schemaPath,
      (Pointer.lookup? f.place.schemaPath schema).getD .null)]

def ofFault (schema : Value) (f : Fault) : Violation :=
  let keyword := keywordOf f.place.schemaPath
  let params := paramsOf schema f
  { keyword
    instancePath := Pointer.text f.place.instancePath
    schemaPath := "#" ++ Pointer.text f.place.schemaPath
    params := .object params
    message := (commonMessage? keyword params).getD f.cause.text }

end Violation

def validateCollection [Standards] (item : Value) (documents : List Snapshot) :
    Except SchemaError (List Violation) :=
  let schema := collectionSchema item
  match CompiledSchema.ofValue? schema with
  | none => .error .invalidSchema
  | some compiled =>
    let instances := documents.map fun s => Value.object s.data
    .ok ((compiled.faults (.array instances)).map (Violation.ofFault schema))

end DocumentMigration
