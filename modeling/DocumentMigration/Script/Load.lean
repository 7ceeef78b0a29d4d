import DocumentMigration.Files.Tree
import DocumentMigration.Record.Script
import DocumentMigration.Schema.Registry
import DocumentMigration.Script.Exports
import DocumentMigration.Script.Format

/-!
From the text of a script to its templates: the text is read, held against the schema of script
files, decoded, and its conditions and attributes are checked in their order. The first fault
counts.
-/
namespace DocumentMigration

open Json

namespace Condition

/-- A comparison comes with a value, a test for presence without one. -/
def check (collection : String) (c : Condition) : Except ScriptFault Unit :=
  match c.comparison.takesValue, c.value with
  | true, none => .error (.needsValue collection c)
  | false, some _ => .error (.takesNoValue collection c)
  | _, _ => .ok ()

end Condition

def ScriptAttribute.template (a : ScriptAttribute) : Except ScriptFault AttributeTemplate :=
  match a.value, a.copyFrom with
  | some _, some _ => .error (.twoSources a.path)
  | some v, none => .ok ⟨a.path, a.operation, some (.literal v)⟩
  | none, some source => .ok ⟨a.path, a.operation, some (.copyFrom source)⟩
  | none, none => .ok ⟨a.path, a.operation, none⟩

namespace ScriptTemplate

/-- A document passes if all conditions hold; without conditions there is no filter. -/
def filter (t : ScriptTemplate) : Option (Object → Bool) :=
  if t.conditions.isEmpty then none
  else some fun document => t.conditions.all fun c => c.matches document

def template (t : ScriptTemplate) : Except ScriptFault Template := do
  t.conditions.forM (Condition.check t.collection)
  let changes ← t.attributes.mapM fun as => as.mapM ScriptAttribute.template
  return { operation := t.operation, collection := t.collection, filter := t.filter, changes }

end ScriptTemplate

namespace ScriptFile

def ofValue [Standards] (v : Value) : Except ScriptFault ScriptFile :=
  match Registry.validate "script_file" v with
  | .error (.validationFailed errors) => .error (.violates errors)
  | .error other => .error (.violates [other.message])
  | .ok () => (ScriptFile.decode v).mapError .undecodable

/-- The templates of a script file. One without changes has no shape. -/
def templates (f : ScriptFile) : Except ScriptFault (List Template) := do
  match ← f.changes.mapM fun ts => ts.mapM ScriptTemplate.template with
  | some templates => return templates
  | none => throw .noShape

end ScriptFile

def parseScript [FloatReader] [Standards] (format : ScriptFormat) (text : String) :
    Except ScriptFault (List Template) := do
  match format.read? text with
  | none => throw .malformed
  | some v => (← ScriptFile.ofValue v).templates

/-- The extension is looked at before the file. -/
def loadScript [FloatReader] [Standards] (files : FileTree) (location : String) :
    Except MigrationError (List Template) := do
  let format ← (ScriptFormat.ofLocation location).mapError .invalidScript
  match files.readText location with
  | .error _ => throw (.unreadableScript location)
  | .ok text => (parseScript format text).mapError .invalidScript

end DocumentMigration
