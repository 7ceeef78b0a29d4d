import DocumentMigration.Template.Evaluate
import DocumentMigration.Proofs.Store.Action

/-! What evaluating a template at a document gives: one change for each attribute, and from these
the row that is shown and the writes that are staged. -/
namespace DocumentMigration

open Json

namespace AttributeTemplate

variable {t : AttributeTemplate} {document : Object} {c : AttributeChange}

/-- The value that an attribute writes; null if it names none. -/
inductive Resolves (t : AttributeTemplate) (document : Object) : Value → Prop where
  | absent : t.value = none → Resolves t document .null
  | source {source : ValueSource} {v : Value} : t.value = some source →
      source.resolve document = .ok v → Resolves t document v

theorem newValue_eq_ok_iff {value : Option Value} :
    t.newValue document = .ok value ↔
      (t.operation = .delete ∧ value = none) ∨
      (t.operation ≠ .delete ∧ ∃ v, value = some v ∧ Resolves t document v) := by
  by_cases deletes : t.operation = .delete
  · simp [newValue, deletes, Operation.writesNewValue, eq_comm]
  have writes : t.operation.writesNewValue = true := by
    cases h : t.operation <;> simp [h, Operation.writesNewValue] at deletes ⊢
  simp only [newValue, writes, if_true, deletes, false_and, false_or, ne_eq, not_false_eq_true,
    true_and]
  cases found : t.value with
  | none =>
    constructor
    · rintro equal
      exact ⟨.null, (Except.ok.inj equal).symm, .absent found⟩
    · rintro ⟨v, rfl, resolves⟩
      cases resolves with
      | absent => rfl
      | source other => simp [found] at other
  | some source =>
    cases resolved : source.resolve document with
    | error reason =>
      simp only [resolved, reduceCtorEq, false_iff]
      rintro ⟨v, _, resolves⟩
      cases resolves with
      | absent missing => simp [found] at missing
      | source other ok =>
        cases Option.some.inj (found.symm.trans other)
        simp [resolved] at ok
    | ok v =>
      simp only [resolved, Except.ok.injEq]
      constructor
      · rintro rfl
        exact ⟨v, rfl, .source found resolved⟩
      · rintro ⟨w, rfl, resolves⟩
        cases resolves with
        | absent missing => simp [found] at missing
        | source other ok =>
          cases Option.some.inj (found.symm.trans other)
          rw [Except.ok.inj (resolved.symm.trans ok)]

/-- The change of an attribute at a document, given the value to be written. -/
def writing (t : AttributeTemplate) (document : Object) (value : Option Value) : AttributeChange :=
  { path := t.path, operation := t.operation, newValue := value
    oldValue := if t.operation.readsOldValue then Path.read? document t.path else none }

theorem evaluate_eq_ok_iff :
    t.evaluate document = .ok c ↔
      ∃ value, t.newValue document = .ok value ∧ c = t.writing document value := by
  simp only [evaluate, Except.bind_eq_ok_iff, pure, Except.pure, Except.ok.injEq]
  exact exists_congr fun _ => and_congr_right fun _ => eq_comm

theorem evaluate_eq_error {e : MigrationError} (failed : t.evaluate document = .error e) :
    ∃ path reason, e = .valueFailed path reason := by
  have value : t.newValue document = .error e := by
    cases found : t.newValue document with
    | error e' => simpa [evaluate, found, bind, Except.bind] using failed
    | ok v => simp [evaluate, found, bind, Except.bind, pure, Except.pure] at failed
  unfold newValue at value
  split at value
  · split at value
    · cases value
    · split at value
      · cases value
      · cases value
        exact ⟨_, _, rfl⟩
  · cases value

/-- The change of an attribute at a document. Only updates and deletes read what was there, and
only a delete has no value to write. -/
structure Evaluated (document : Object) (t : AttributeTemplate) (c : AttributeChange) : Prop where
  path : c.path = t.path
  operation : c.operation = t.operation
  oldValue : c.operation ≠ .create → c.oldValue = Path.read? document c.path
  newValue : c.operation ≠ .delete → ∃ v, c.newValue = some v ∧ Resolves t document v

theorem evaluated_of_evaluate (h : t.evaluate document = .ok c) : Evaluated document t c := by
  obtain ⟨value, resolved, rfl⟩ := evaluate_eq_ok_iff.mp h
  refine ⟨rfl, rfl, fun reads => ?_, fun writes => ?_⟩
  · have reads : t.operation ≠ .create := reads
    have old : t.operation.readsOldValue = true := by
      cases operation : t.operation <;> simp [operation, Operation.readsOldValue] at reads ⊢
    rw [writing, old, if_pos rfl]
  · rcases newValue_eq_ok_iff.mp resolved with ⟨deletes, _⟩ | ⟨_, written⟩
    · exact (writes deletes).elim
    · exact written

end AttributeTemplate

namespace CompiledTemplate

variable {t : CompiledTemplate} {document : Object} {d : Snapshot}

theorem transform_eq_ok_iff {changes : List AttributeChange} {after : Object} :
    t.transform document = .ok (changes, after) ↔
      t.evaluate document = .ok changes ∧ Change.applied changes document = .ok after := by
  simp only [transform, Except.bind_eq_ok_iff]
  constructor
  · rintro ⟨made, evaluated, result⟩
    cases applied : Change.applied made document with
    | error e => simp [applied, throw, throwThe, MonadExceptOf.throw] at result
    | ok after' =>
      simp only [applied, pure, Except.pure, Except.ok.injEq, Prod.mk.injEq] at result
      obtain ⟨rfl, rfl⟩ := result
      exact ⟨evaluated, applied⟩
  · rintro ⟨evaluated, applied⟩
    exact ⟨changes, evaluated, by simp [applied, pure, Except.pure]⟩

theorem newDocument_eq_ok_iff {data : Object} :
    t.newDocument = .ok data ↔
      ∃ changes, t.evaluate [] = .ok changes ∧ Change.build changes = .ok data := by
  simp only [newDocument, Except.bind_eq_ok_iff]
  refine exists_congr fun changes => and_congr_right fun _ => ?_
  cases Change.build changes <;> simp [pure, Except.pure, throw, throwThe, MonadExceptOf.throw]

theorem evaluated_of_evaluate {changes : List AttributeChange}
    (h : t.evaluate document = .ok changes) :
    List.Forall₂ (AttributeTemplate.Evaluated document) t.attributes changes :=
  (Except.mapM_eq_ok_iff.mp h).imp fun _ _ => AttributeTemplate.evaluated_of_evaluate

theorem previewOne_update_eq_ok_iff {row : DocumentChange} (update : t.operation = .update) :
    t.previewOne d = .ok row ↔ ∃ changes after, t.transform d.data = .ok (changes, after) ∧
      row = { operation := .update, documentId := d.id, collection := t.collection
              before := some d.data, after := some after, changes } := by
  simp only [previewOne, update, Except.map_eq_ok_iff, Prod.exists]

theorem stageOne_update_eq_ok_iff {writes : List Write} (update : t.operation = .update) :
    t.stageOne d = .ok writes ↔ ∃ changes after, t.transform d.data = .ok (changes, after) ∧
      writes = if after.isEmpty then [] else [.update d.id after] := by
  simp only [stageOne, update, Except.map_eq_ok_iff, Prod.exists]

theorem stageOne_of_not_update (kind : t.operation ≠ .update) (d : Snapshot) :
    t.stageOne d = .ok [.delete d.id] := by
  unfold stageOne
  split
  · contradiction
  · rfl

theorem evaluate_eq_error {e : MigrationError} (failed : t.evaluate document = .error e) :
    ∃ path reason, e = .valueFailed path reason := by
  obtain ⟨a, _, failed⟩ := Except.exists_of_mapM_eq_error failed
  exact AttributeTemplate.evaluate_eq_error failed

/-- What follows an evaluation only adds that a path cannot be followed. -/
theorem eq_error_of_evaluate {rest : List AttributeChange → Except MigrationError α}
    (applies : ∀ changes e, rest changes = .error e → ∃ fault, e = .pathError fault)
    {e : MigrationError} (failed : (t.evaluate document >>= rest) = .error e) :
    (∃ path reason, e = .valueFailed path reason) ∨ ∃ fault, e = .pathError fault := by
  cases evaluated : t.evaluate document with
  | error e' =>
    rw [evaluated] at failed
    cases failed
    exact .inl (evaluate_eq_error evaluated)
  | ok changes =>
    rw [evaluated] at failed
    exact .inr (applies changes e failed)

theorem newDocument_eq_error {e : MigrationError} (failed : t.newDocument = .error e) :
    (∃ path reason, e = .valueFailed path reason) ∨ ∃ fault, e = .pathError fault := by
  refine eq_error_of_evaluate (fun changes e failed => ?_) failed
  split at failed <;> cases failed
  exact ⟨_, rfl⟩

/-- A document fails for a value that cannot be had or for a path that cannot be followed. -/
theorem transform_eq_error {e : MigrationError} (failed : t.transform document = .error e) :
    (∃ path reason, e = .valueFailed path reason) ∨ ∃ fault, e = .pathError fault := by
  refine eq_error_of_evaluate (fun changes e failed => ?_) failed
  split at failed <;> cases failed
  exact ⟨_, rfl⟩

theorem stageOne_eq_error {e : MigrationError} (failed : t.stageOne d = .error e) :
    (∃ path reason, e = .valueFailed path reason) ∨ ∃ fault, e = .pathError fault := by
  unfold stageOne at failed
  split at failed
  · cases made : t.transform d.data with
    | ok result => simp [made, Except.map] at failed
    | error e' =>
      simp only [made, Except.map, Except.error.injEq] at failed
      exact failed ▸ transform_eq_error made
  · cases failed

end CompiledTemplate

end DocumentMigration
