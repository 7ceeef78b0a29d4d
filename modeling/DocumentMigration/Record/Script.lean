import DocumentMigration.Record.Change
import DocumentMigration.Script.Basic

/-!
Script files as JSON. The attributes of a template may be called `changes`, but not both.
-/
namespace DocumentMigration

open Json Record

namespace Comparison

def encode (c : Comparison) : Value := .string c.name

def decode : Value → Decoded Comparison := variant (Comparison.all.map fun c => (c.name, c))

end Comparison

namespace Condition

def encode (c : Condition) : Value :=
  Record.fields [("path", some (.string c.path)), ("op", some c.comparison.encode),
    ("value", c.value)]

def decode : Value → Decoded Condition :=
  record "Condition"
    (fun ms => do
      let comparison ← member ms "op" Comparison.decode
      let path ← member ms "path" text
      let value ← member ms "value" (nullable any)
      return { path := ← required "path" path, comparison := ← required "op" comparison,
               value := value.join })
    (do
      let expected := sized "Condition" 3
      let path ← nextItem expected text
      let comparison ← nextItem expected Comparison.decode
      let value ← nextItemOr none (nullable any)
      return { path, comparison, value })

end Condition

namespace ScriptAttribute

def encode (a : ScriptAttribute) : Value :=
  Record.fields [("path", some (.string a.path)), ("operation", some a.operation.encode),
    ("value", a.value), ("copy_from", a.copyFrom.map .string)]

def decode : Value → Decoded ScriptAttribute :=
  record "ScriptAttribute"
    (fun ms => do
      let copyFrom ← member ms "copy_from" (nullable text)
      let operation ← member ms "operation" Operation.decode
      let path ← member ms "path" text
      let value ← member ms "value" (nullable any)
      return { path := ← required "path" path, operation := ← required "operation" operation,
               value := value.join, copyFrom := copyFrom.join })
    (do
      let expected := sized "ScriptAttribute" 4
      let path ← nextItem expected text
      let operation ← nextItem expected Operation.decode
      let value ← nextItemOr none (nullable any)
      let copyFrom ← nextItemOr none (nullable text)
      return { path, operation, value, copyFrom })

end ScriptAttribute

namespace ScriptTemplate

def encode (t : ScriptTemplate) : Value :=
  let conditions := Value.array (t.conditions.map Condition.encode)
  Record.fields [("operation", some t.operation.encode),
    ("collection", some (.string t.collection)),
    ("where", if t.conditions.isEmpty then none else some conditions),
    ("attributes", t.attributes.map fun as => .array (as.map ScriptAttribute.encode))]

def decode : Value → Decoded ScriptTemplate :=
  record "ScriptTemplate"
    (fun ms => do
      let attributes ← member ms "attributes" (nullable (each ScriptAttribute.decode))
      if attributes.isSome && ms.contains "changes" then throw (.duplicateField "attributes")
      let changes ← member ms "changes" (nullable (each ScriptAttribute.decode))
      let collection ← member ms "collection" text
      let operation ← member ms "operation" Operation.decode
      let conditions ← member ms "where" (each Condition.decode)
      return { operation := ← required "operation" operation,
               collection := ← required "collection" collection,
               conditions := conditions.getD [], attributes := (attributes.or changes).join })
    (do
      let expected := sized "ScriptTemplate" 4
      let operation ← nextItem expected Operation.decode
      let collection ← nextItem expected text
      let conditions ← nextItemOr [] (each Condition.decode)
      let attributes ← nextItemOr none (nullable (each ScriptAttribute.decode))
      return { operation, collection, conditions, attributes })

end ScriptTemplate

namespace ScriptFile

/-- A file without changes is written with a null in their place. -/
def encode (f : ScriptFile) : Value :=
  Record.fields [("description", f.description.map .string),
    ("changes", some (match f.changes with
      | some ts => .array (ts.map ScriptTemplate.encode)
      | none => .null))]

def decode : Value → Decoded ScriptFile :=
  record "ScriptFile"
    (fun ms => do
      let changes ← member ms "changes" (nullable (each ScriptTemplate.decode))
      let description ← member ms "description" (nullable text)
      return { description := description.join, changes := changes.join })
    (do
      let description ← nextItemOr none (nullable text)
      let changes ← nextItemOr none (nullable (each ScriptTemplate.decode))
      return { description, changes })

end ScriptFile
end DocumentMigration
