import DocumentMigration.Migration.Basic

/-!
What a script offers: a list of templates, or a pair of functions of its own, never both.
-/
namespace DocumentMigration

structure ScriptExports (σ : Type) where
  changes : Option (List Template) := none
  preview : Option (Action σ MigrationError (List DocumentChange)) := none
  migrate : Option (Nat → Action σ MigrationError (List Outcome)) := none

/-- A script whose shape has been checked. -/
inductive Script (σ : Type) where
  | templates (templates : List Template)
  | custom (migration : Migration σ)

def ScriptExports.script (e : ScriptExports σ) : Except ScriptFault (Script σ) :=
  match e.changes, e.preview, e.migrate with
  | some _, some _, _ => .error .bothShapes
  | some _, _, some _ => .error .bothShapes
  | some changes, none, none => .ok (.templates changes)
  | none, some preview, some migrate => .ok (.custom ⟨preview, migrate⟩)
  | none, some _, none => .error .halfCustom
  | none, none, some _ => .error .halfCustom
  | none, none, none => .error .noShape

def Script.migration [DocumentStore σ] : Script σ → Migration σ
  | .templates list => .ofTemplates list
  | .custom both => both

end DocumentMigration
