import DocumentMigration.Change.Execute
import DocumentMigration.Migration.Basic

/-!
Previews and runs with arrays of a capacity. Each template works out what becomes of its documents
before it writes one. There it breaks off with the changes of the first document that do, unless a
document before has no row.
-/
namespace DocumentMigration

variable {σ : Type} [DocumentStore σ] (capacity : Change.Capacity)

namespace CompiledTemplate

def breaksOffAt (t : CompiledTemplate) (document : Json.Object) : Bool :=
  match t.operation, t.evaluate document with
  | .delete, _ | _, .error _ => false
  | _, .ok changes => (Change.execute capacity changes document).isNone

def breaksOffAmong (t : CompiledTemplate) : List Snapshot → Bool
  | [] => false
  | d :: rest => t.breaksOffAt capacity d.data || ((t.previewOne d).isOk && t.breaksOffAmong rest)

def previewBreaksOff (t : CompiledTemplate) (s : σ) : Bool :=
  match t.accepted.run s with
  | (.ok documents, _) => t.breaksOffAmong capacity documents
  | (.error _, _) => false

/-- A create template applies its changes to an empty document, once. -/
def migrateBreaksOff (t : CompiledTemplate) (s : σ) : Bool :=
  match t.operation with
  | .create => t.breaksOffAt capacity []
  | _ => t.previewBreaksOff capacity s

end CompiledTemplate

/-- Whether one of some templates breaks off, those before it having run. -/
def breaksOffAlong {α : Type} (run : CompiledTemplate → Action σ MigrationError α)
    (breaksOff : CompiledTemplate → σ → Bool) : List CompiledTemplate → σ → Bool
  | [], _ => false
  | t :: rest, s =>
    breaksOff t s ||
      match (run t).run s with
      | (.ok _, s) => breaksOffAlong run breaksOff rest s
      | (.error _, _) => false

def previewAllBreaksOff (templates : List Template) (s : σ) : Bool :=
  match Template.compileAll templates with
  | .ok compiled => breaksOffAlong (·.preview) (·.previewBreaksOff capacity) compiled s
  | .error _ => false

def migrateAllBreaksOff (templates : List Template) (maxBatchSize : Nat) (s : σ) : Bool :=
  match Template.compileAll templates with
  | .ok compiled =>
    breaksOffAlong (·.migrate maxBatchSize) (·.migrateBreaksOff capacity) compiled s
  | .error _ => false

end DocumentMigration
