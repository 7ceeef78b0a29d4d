import DocumentMigration.Json.Pointer
import DocumentMigration.Schema.Assertion

/-!
Faults: what is wrong with a value, where it stands, and which place of the schema says so.
-/
namespace DocumentMigration

open Json

/-- Where a check stands, in the schema and in the value. -/
structure Place where
  schemaPath : List String := []
  instancePath : List String := []

namespace Place

def keyword (p : Place) (name : String) : Place := { p with schemaPath := p.schemaPath ++ [name] }

def member (p : Place) (name : String) : Place :=
  { p with instancePath := p.instancePath ++ [name] }

def index (p : Place) (i : Nat) : Place := p.member (Pointer.indexText i)

end Place

inductive Cause where
  | assertion (assertion : Assertion) (value : Value)
  | missing (property : String)
  | unexpected (names : List String)
  | falseSchema (value : Value)
  | noneOf (keyword : String) (value : Value)
  | severalOf (value : Value)
  | forbidden (schema value : Value)
  | notContained (value : Value)
  /-- Members or items that no keyword has looked at. -/
  | unevaluated (parts : String) (names : List String)

/-- Names of parts of a value that should not be there. -/
def Cause.unexpectedNames (names : List String) : String :=
  "(" ++ String.intercalate ", " (names.map fun n => "'" ++ n ++ "'")
    ++ (if names.length = 1 then " was" else " were") ++ " unexpected)"

def Cause.text : Cause → String
  | .assertion a v => a.failure v
  | .missing property => (Value.string property).compact ++ " is a required property"
  | .unexpected names =>
    "Additional properties are not allowed " ++ unexpectedNames names
  | .falseSchema v => "False schema does not allow " ++ v.compact
  | .noneOf keyword v =>
    v.compact ++ " is not valid under any of the schemas listed in the '" ++ keyword ++ "' keyword"
  | .severalOf v =>
    v.compact ++ " is valid under more than one of the schemas listed in the 'oneOf' keyword"
  | .forbidden schema v => schema.compact ++ " is not allowed for " ++ v.compact
  | .notContained v => "None of " ++ v.compact ++ " are valid under the given schema"
  | .unevaluated parts names =>
    "Unevaluated " ++ parts ++ " are not allowed " ++ unexpectedNames names

structure Fault where
  place : Place
  cause : Cause

end DocumentMigration
