import DocumentMigration.Template.Compile
import DocumentMigration.Proofs.Store.Action

/-! The contract of a template, and that compiling checks just this contract. -/
namespace DocumentMigration

open Json

namespace Template

/-- A delete keeps it as it is. The others need changes with valid paths, a create only creates. -/
def KeepsContract (t : Template) : Prop :=
  t.operation = .delete ∨ ∃ changes, t.changes = some changes ∧
    (∀ c ∈ changes, Path.isValid c.path) ∧
    (t.operation = .create → ∀ c ∈ changes, c.operation = .create)

/-- The attributes that a template is compiled to; a delete has none. -/
def attributes (t : Template) : List AttributeTemplate :=
  if t.operation = .delete then [] else t.changes.getD []

def compiled (t : Template) : CompiledTemplate :=
  ⟨t.operation, t.collection, t.filter, t.attributes⟩

variable {t : Template}

theorem requiredChanges_eq_ok_iff {changes : List AttributeTemplate} :
    t.requiredChanges = .ok changes ↔
      t.changes = some changes ∧ ∀ c ∈ changes, Path.isValid c.path := by
  unfold requiredChanges
  cases found : t.changes with
  | none => simp
  | some all =>
    cases invalid : all.find? fun c => !Path.isValid c.path with
    | some c =>
      have member := List.mem_of_find?_eq_some invalid
      have bad := List.find?_some invalid
      simp only [invalid, reduceCtorEq, Option.some.injEq, false_iff, not_and]
      rintro rfl valid
      simp [valid c member] at bad
    | none =>
      have valid : ∀ c ∈ all, Path.isValid c.path := by
        simpa using List.find?_eq_none.mp invalid
      simp only [invalid, Except.ok.injEq, Option.some.injEq]
      exact ⟨fun equal => ⟨equal, equal ▸ valid⟩, fun both => both.1⟩

theorem compile_eq_ok_iff {c : CompiledTemplate} :
    t.compile = .ok c ↔ t.KeepsContract ∧ c = t.compiled := by
  cases operation : t.operation with
  | delete =>
    have keeps : t.KeepsContract := .inl operation
    simp only [compile, operation, pure, Except.pure, Except.ok.injEq, keeps, true_and, compiled,
      attributes, if_true]
    exact eq_comm
  | update =>
    simp only [compile, operation, Except.bind_eq_ok_iff, requiredChanges_eq_ok_iff, pure,
      Except.pure, Except.ok.injEq]
    constructor
    · rintro ⟨changes, ⟨found, valid⟩, rfl⟩
      exact ⟨.inr ⟨changes, found, valid, by simp [operation]⟩,
        by simp [compiled, attributes, operation, found]⟩
    · rintro ⟨keeps, rfl⟩
      obtain impossible | ⟨changes, found, valid, _⟩ := keeps
      · simp [operation] at impossible
      · exact ⟨changes, ⟨found, valid⟩, by simp [compiled, attributes, operation, found]⟩
  | create =>
    simp only [compile, operation, Except.bind_eq_ok_iff, requiredChanges_eq_ok_iff, pure,
      Except.pure]
    constructor
    · rintro ⟨changes, ⟨found, valid⟩, checked⟩
      split at checked
      · simp [throw, throwThe, MonadExceptOf.throw] at checked
      · next unfound =>
        cases checked
        refine ⟨.inr ⟨changes, found, valid, fun _ c member => ?_⟩,
          by simp [compiled, attributes, operation, found]⟩
        simpa using List.find?_eq_none.mp unfound c member
    · rintro ⟨keeps, rfl⟩
      obtain impossible | ⟨changes, found, valid, creates⟩ := keeps
      · simp [operation] at impossible
      · refine ⟨changes, ⟨found, valid⟩, ?_⟩
        have unfound : changes.find? (·.operation ≠ .create) = none := by
          simpa using creates operation
        rw [unfound]
        simp [compiled, attributes, operation, found]

theorem requiredChanges_eq_error {e : MigrationError} (failed : t.requiredChanges = .error e) :
    (∃ operation, e = .missingChanges operation) ∨ ∃ fault, e = .pathError fault := by
  unfold requiredChanges at failed
  split at failed
  · cases failed
    exact .inl ⟨_, rfl⟩
  · split at failed
    · cases failed
      exact .inr ⟨_, rfl⟩
    · cases failed

/-- Compiling asks for the changes first; after that only an attribute can be wrong. -/
theorem requiredChanges_eq_error_of_compile {e : MigrationError} (failed : t.compile = .error e) :
    t.requiredChanges = .error e ∨ ∃ path operation, e = .attributeOperation path operation := by
  cases changes : t.requiredChanges with
  | error e' =>
    cases operation : t.operation <;>
      simp [compile, operation, changes, bind, Except.bind, pure, Except.pure] at failed
    all_goals exact .inl (congrArg Except.error failed)
  | ok all =>
    cases operation : t.operation <;>
      simp only [compile, operation, changes, bind, Except.bind, pure, Except.pure] at failed
    case create =>
      split at failed
      · cases failed
        exact .inr ⟨_, _, rfl⟩
      · cases failed
    all_goals cases failed

/-- Compiling complains of changes that are missing, of a path or of an attribute. -/
theorem compile_eq_error {e : MigrationError} (failed : t.compile = .error e) :
    (∃ operation, e = .missingChanges operation) ∨ (∃ fault, e = .pathError fault) ∨
      ∃ path operation, e = .attributeOperation path operation := by
  rcases requiredChanges_eq_error_of_compile failed with changes | wrongAttribute
  · exact (requiredChanges_eq_error changes).imp_right .inl
  · exact .inr (.inr wrongAttribute)

theorem compileAll_eq_ok_iff {templates : List Template} {cs : List CompiledTemplate} :
    compileAll templates = .ok cs ↔
      (∀ t ∈ templates, t.KeepsContract) ∧ cs = templates.map compiled := by
  unfold compileAll
  induction templates generalizing cs with
  | nil => simp [pure, Except.pure, eq_comm]
  | cons t templates ih =>
    rw [Except.mapM_cons_eq_ok_iff]
    simp only [compile_eq_ok_iff, ih, List.mem_cons, forall_eq_or_imp, List.map_cons]
    constructor
    · rintro ⟨c, rest, rfl, ⟨first, rfl⟩, later, rfl⟩
      exact ⟨⟨first, later⟩, rfl⟩
    · rintro ⟨⟨first, later⟩, rfl⟩
      exact ⟨_, _, rfl, ⟨first, rfl⟩, later, rfl⟩

end Template
end DocumentMigration
