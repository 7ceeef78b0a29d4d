import DocumentMigration.Json.Value

/-!
Violations of a schema as they are reported, alone or merged by the rule that was broken.
-/
namespace DocumentMigration

open Json

structure Violation where
  keyword : String
  instancePath : String
  schemaPath : String
  params : Value
  message : String

/-- One broken rule with every place where it was broken. -/
structure MergedViolation where
  violation : Violation
  instancePaths : List String

end DocumentMigration
