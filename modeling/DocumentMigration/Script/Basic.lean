import DocumentMigration.Change.Operation
import DocumentMigration.Condition

/-!
The contents of a script file as it is written down, before its rules are checked.
-/
namespace DocumentMigration

open Json

/-- A change of one attribute, to a literal or to the value at another path. -/
structure ScriptAttribute where
  path : String
  operation : Operation
  value : Option Value := none
  copyFrom : Option String := none

structure ScriptTemplate where
  operation : Operation
  collection : String
  conditions : List Condition := []
  attributes : Option (List ScriptAttribute) := none

structure ScriptFile where
  description : Option String := none
  changes : Option (List ScriptTemplate) := none

end DocumentMigration
