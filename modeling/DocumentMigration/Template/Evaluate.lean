import DocumentMigration.Migration.Error
import DocumentMigration.Store.Batch
import DocumentMigration.Template.Basic

/-!
Attribute changes of one document: the old value read at the path, the new one resolved against the
whole document as it was.
-/
namespace DocumentMigration

open Json

namespace AttributeTemplate

def newValue (t : AttributeTemplate) (document : Object) : Except MigrationError (Option Value) :=
  if t.operation.writesNewValue then
    match t.value with
    | none => .ok (some .null)
    | some source =>
      match source.resolve document with
      | .ok value => .ok (some value)
      | .error reason => .error (.valueFailed t.path reason)
  else .ok none

def evaluate (document : Object) (t : AttributeTemplate) :
    Except MigrationError AttributeChange := do
  let newValue ← t.newValue document
  return { path := t.path, operation := t.operation, newValue
           oldValue := if t.operation.readsOldValue then Path.read? document t.path else none }

end AttributeTemplate

namespace CompiledTemplate

def evaluate (t : CompiledTemplate) (document : Object) :
    Except MigrationError (List AttributeChange) :=
  t.attributes.mapM (·.evaluate document)

def transform (t : CompiledTemplate) (document : Object) :
    Except MigrationError (List AttributeChange × Object) := do
  let changes ← t.evaluate document
  match Change.applied changes document with
  | .ok after => return (changes, after)
  | .error e => throw (.pathError e)

/-- The body of the one document that a create template adds. It depends on no stored document. -/
def newDocument (t : CompiledTemplate) : Except MigrationError Object := do
  match Change.build (← t.evaluate []) with
  | .ok data => return data
  | .error e => throw (.pathError e)

def previewOne (t : CompiledTemplate) (s : Snapshot) : Except MigrationError DocumentChange :=
  let row : DocumentChange :=
    { operation := t.operation, documentId := s.id, collection := t.collection }
  match t.operation with
  | .delete => .ok { row with before := some s.data }
  | .update => (t.transform s.data).map fun (changes, after) =>
      { row with before := some s.data, after := some after, changes }
  | .create => (t.transform s.data).map fun (changes, after) =>
      { row with after := some after, changes }

/-- The writes that an update or delete makes of one accepted document. An update that empties the
document is left out. -/
def stageOne (t : CompiledTemplate) (s : Snapshot) : Except MigrationError (List Write) :=
  match t.operation with
  | .update => (t.transform s.data).map fun (_, after) =>
      if after.isEmpty then [] else [Write.update s.id after]
  | _ => .ok [Write.delete s.id]

end CompiledTemplate
end DocumentMigration
