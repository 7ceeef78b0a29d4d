import DocumentMigration.Migration.Error
import DocumentMigration.Template.Basic

/-!
Checking the contract of a template, before any store is asked.
-/
namespace DocumentMigration

/-- Which templates a compiler takes: any, or those of one operation. -/
abbrev Acceptance := Option Operation

namespace Template

def requiredChanges (t : Template) : Except MigrationError (List AttributeTemplate) :=
  match t.changes with
  | none => .error (.missingChanges t.operation)
  | some changes =>
    match changes.find? fun c => !Path.isValid c.path with
    | some c => .error (.pathError (.invalid c.path))
    | none => .ok changes

def compile (t : Template) : Except MigrationError CompiledTemplate := do
  let compiled (attributes : List AttributeTemplate) : CompiledTemplate :=
    { operation := t.operation, collection := t.collection, filter := t.filter, attributes }
  match t.operation with
  | .delete => return compiled []
  | .update => return compiled (← t.requiredChanges)
  | .create =>
    let changes ← t.requiredChanges
    match changes.find? (·.operation ≠ .create) with
    | some c => throw (.attributeOperation c.path c.operation)
    | none => return compiled changes

def compileAs (expected : Acceptance) (t : Template) : Except MigrationError CompiledTemplate :=
  match expected with
  | none => t.compile
  | some operation =>
    if t.operation = operation then t.compile else .error (.wrongOperation t.operation operation)

/-- The first template that breaks its contract decides. -/
def compileAll (templates : List Template) : Except MigrationError (List CompiledTemplate) :=
  templates.mapM compile

end Template
end DocumentMigration
