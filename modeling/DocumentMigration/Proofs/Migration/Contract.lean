import DocumentMigration.Proofs.Change.Apply
import DocumentMigration.Proofs.Migration.Migrate
import DocumentMigration.Proofs.Template.Evaluate

/-! Where an error can come from. Compiling a template finds everything that is wrong with the
template itself, so a run of a compiled template fails for its values, for the documents that it
meets or for the store, and templates that do not compile never get to the store. -/
namespace DocumentMigration

open Json DocumentMigration.Action

namespace Change

variable {c : AttributeChange} {changes : List AttributeChange} {v : Value} {fault : PathError}

/-- An edit that only complains of arrays that a segment of the path does not index. -/
def IndexesArrays (path : String) (edit : Value → Edited) : Prop :=
  ∀ v, v.isContainer → ∀ fault, (edit v).2 = some fault →
    ∃ segment, fault = .arrayIndex path segment

theorem setLeaf_indexesArrays (path leaf : String) (value : Value) :
    IndexesArrays path (setLeaf path leaf value) := by
  intro v hv fault failed
  by_cases place : HasPlace leaf v
  · simp [setLeaf_of_hasPlace place] at failed
  · rw [setLeaf_of_not_hasPlace hv place] at failed
    exact ⟨leaf, (Option.some.inj failed).symm⟩

theorem removeLeaf_indexesArrays (path leaf : String) :
    IndexesArrays path (removeLeaf path leaf) := by
  intro v hv fault failed
  by_cases place : HasPlace leaf v
  · simp [removeLeaf_of_hasPlace place] at failed
  · rw [removeLeaf_of_not_hasPlace hv place] at failed
    exact ⟨leaf, (Option.some.inj failed).symm⟩

theorem editOf_indexesArrays (c : AttributeChange) (leaf : String) :
    IndexesArrays c.path (editOf c leaf) := by
  unfold editOf
  cases c.operation
  case delete => exact removeLeaf_indexesArrays c.path leaf
  all_goals exact setLeaf_indexesArrays c.path leaf _

/-- Walking down adds no other complaint: what it walks through is a container at every step. -/
theorem descend_indexesArrays {path : String} {edit : Value → Edited}
    (edits : IndexesArrays path edit) (segments : List String) :
    IndexesArrays path (descend path edit segments) := by
  induction segments with
  | nil => exact edits
  | cons segment rest ih =>
    intro v hv fault failed
    by_cases place : HasPlace segment v
    · rw [descend_cons_of_hasPlace hv place] at failed
      exact ih _ (isContainer_below segment v) fault failed
    · rw [descend_cons_of_not_hasPlace hv place] at failed
      exact ⟨segment, (Option.some.inj failed).symm⟩

theorem applyOne_indexesArrays (c : AttributeChange) : IndexesArrays c.path (applyOne c) := by
  intro v hv fault failed
  by_cases unnamed : (leafOf c.path).isEmpty = true
  · simp [applyOne_of_no_leaf unnamed] at failed
  · rw [applyOne_of_leaf (Bool.eq_false_iff.mpr unnamed)] at failed
    exact descend_indexesArrays (editOf_indexesArrays c _) _ v hv fault failed

/-- A run of changes stops at an array that a segment of one of its paths does not index. -/
theorem applyAll_eq_fault (hv : v.isContainer) (failed : (applyAll changes v).2 = some fault) :
    ∃ c ∈ changes, ∃ segment, fault = .arrayIndex c.path segment := by
  induction changes generalizing v with
  | nil => cases failed
  | cons c changes ih =>
    by_cases done : (applyOne c v).2 = none
    · rw [applyAll_cons_of_done done] at failed
      obtain ⟨d, member, indexed⟩ := ih (isContainer_applyOne c hv) failed
      exact ⟨d, List.mem_cons_of_mem _ member, indexed⟩
    · rw [applyAll_cons_of_failed done] at failed
      exact ⟨c, List.mem_cons_self, applyOne_indexesArrays c v hv fault failed⟩

theorem applied_eq_error {document : Object} (failed : applied changes document = .error fault) :
    ∃ c ∈ changes, ∃ segment, fault = .arrayIndex c.path segment := by
  refine applyAll_eq_fault (v := .object document) rfl ?_
  cases run : applyAll changes (.object document) with
  | mk root stopped =>
    cases stopped with
    | none => simp [applied, apply, run] at failed
    | some other => simpa [applied, apply, run] using failed

end Change

namespace MigrationError

/-- Something is wrong with a template, whatever store it meets. -/
inductive IsContractFault : MigrationError → Prop where
  | operation (found expected : Operation) : IsContractFault (.wrongOperation found expected)
  | changes (operation : Operation) : IsContractFault (.missingChanges operation)
  | attribute (path : String) (found : Operation) : IsContractFault (.attributeOperation path found)
  | path (path : String) : IsContractFault (.pathError (.invalid path))

/-- Only a run can tell: the store refuses, a value cannot be had or an array is in the way. -/
inductive IsRunFault : MigrationError → Prop where
  | store (error : StoreError) : IsRunFault (.storeError error)
  | value (path reason : String) : IsRunFault (.valueFailed path reason)
  | index (path segment : String) : IsRunFault (.pathError (.arrayIndex path segment))

theorem IsRunFault.not_isContractFault {e : MigrationError} (run : e.IsRunFault) :
    ¬ e.IsContractFault := by
  cases run <;> rintro ⟨⟩

end MigrationError

open MigrationError

namespace Template

variable {t : Template} {templates : List Template} {e : MigrationError}

theorem requiredChanges_fails (failed : t.requiredChanges = .error e) : e.IsContractFault := by
  unfold requiredChanges at failed
  split at failed
  · cases failed
    exact .changes t.operation
  · split at failed
    · cases failed
      exact .path _
    · cases failed

theorem compile_fails (failed : t.compile = .error e) : e.IsContractFault := by
  rcases requiredChanges_eq_error_of_compile failed with changes | ⟨path, operation, rfl⟩
  · exact requiredChanges_fails changes
  · exact .attribute path operation

/-- The first template that does not compile decides what a list of templates fails with. -/
theorem compileAll_eq_error_of_first {before after : List Template}
    (compile : ∀ u ∈ before, ∃ c, u.compile = .ok c) (failed : t.compile = .error e) :
    compileAll (before ++ t :: after) = .error e := by
  unfold compileAll
  induction before with
  | nil => exact Except.mapM_cons_eq_error_iff.mpr (.inl failed)
  | cons u before ih =>
    obtain ⟨⟨c, first⟩, later⟩ := List.forall_mem_cons.mp compile
    exact Except.mapM_cons_eq_error_iff.mpr (.inr ⟨c, first, ih later⟩)

theorem exists_first_rejected {templates : List Template} (member : t ∈ templates)
    (failed : t.compile = .error e) :
    ∃ before first after e', templates = before ++ first :: after ∧
      (∀ u ∈ before, ∃ c, u.compile = .ok c) ∧ first.compile = .error e' := by
  induction templates with
  | nil => cases member
  | cons u templates ih =>
    cases compiled : u.compile with
    | error e' => exact ⟨[], u, templates, e', rfl, by simp, compiled⟩
    | ok c =>
      rcases List.mem_cons.mp member with rfl | member
      · rw [failed] at compiled
        cases compiled
      · obtain ⟨before, first, after, e', rfl, accepted, rejected⟩ := ih member
        exact ⟨u :: before, first, after, e', rfl,
          List.forall_mem_cons.mpr ⟨⟨c, compiled⟩, accepted⟩, rejected⟩

end Template

namespace CompiledTemplate

variable {t : CompiledTemplate} {document : Object} {e : MigrationError}

/-- After the values are there, only applying the changes can fail. -/
theorem evaluate_then_fails (pick : List AttributeChange → List AttributeChange) (start : Object)
    (make : List AttributeChange → Object → α) (failed : (do
      let changes ← t.evaluate document
      match Change.applied (pick changes) start with
      | .ok after => return make changes after
      | .error fault => throw (.pathError fault) : Except MigrationError α) = .error e) :
    e.IsRunFault := by
  cases evaluated : t.evaluate document with
  | error other =>
    rw [evaluated] at failed
    cases failed
    obtain ⟨path, reason, rfl⟩ := evaluate_eq_error evaluated
    exact .value path reason
  | ok changes =>
    rw [evaluated] at failed
    cases applied : Change.applied (pick changes) start with
    | ok after => simp [applied, bind, Except.bind, pure, Except.pure] at failed
    | error fault =>
      obtain ⟨c, _, segment, rfl⟩ := Change.applied_eq_error applied
      simp only [applied, bind, Except.bind] at failed
      cases failed
      exact .index c.path segment

theorem transform_fails (failed : t.transform document = .error e) : e.IsRunFault :=
  evaluate_then_fails id document (fun changes after => (changes, after)) failed

theorem newDocument_fails (failed : t.newDocument = .error e) : e.IsRunFault :=
  evaluate_then_fails _ [] (fun _ data => data) failed

theorem map_transform_fails {f : List AttributeChange × Object → α}
    (failed : (t.transform document).map f = .error e) : e.IsRunFault := by
  cases made : t.transform document with
  | ok result => simp [made, Except.map] at failed
  | error other =>
    simp only [made, Except.map, Except.error.injEq] at failed
    exact failed ▸ transform_fails made

theorem previewOne_fails {d : Snapshot} (failed : t.previewOne d = .error e) : e.IsRunFault := by
  unfold previewOne at failed
  split at failed
  · cases failed
  all_goals exact map_transform_fails failed

theorem stageOne_fails {d : Snapshot} (failed : t.stageOne d = .error e) : e.IsRunFault := by
  unfold stageOne at failed
  split at failed
  · exact map_transform_fails failed
  · cases failed

end CompiledTemplate

/-- An action whose errors, whatever state it starts from, are of one kind. -/
def FailsWith (kind : ε → Prop) (action : Action σ ε α) : Prop :=
  ∀ ⦃s s' e⦄, action.run s = (.error e, s') → kind e

namespace FailsWith

variable {σ ε α β : Type} {kind : ε → Prop}

theorem pure (a : α) : FailsWith kind (Pure.pure a : Action σ ε α) := by
  intro s s' e failed
  cases failed

theorem mk_pure {result : Except ε α} (fails : ∀ e, result = .error e → kind e) :
    FailsWith kind (ExceptT.mk (Pure.pure result) : Action σ ε α) := by
  intro s s' e failed
  rw [run_mk_pure, Prod.mk.injEq] at failed
  exact fails e failed.1

theorem bind {x : Action σ ε α} {f : α → Action σ ε β} (first : FailsWith kind x)
    (later : ∀ a, FailsWith kind (f a)) : FailsWith kind (x >>= f) := by
  intro s s' e failed
  rcases run_bind_eq_error_iff.mp failed with here | ⟨a, next, _, there⟩
  · exact first here
  · exact later a there

theorem imp {kind' : ε → Prop} {action : Action σ ε α} (fails : FailsWith kind action)
    (weaker : ∀ e, kind e → kind' e) : FailsWith kind' action :=
  fun _ _ e failed => weaker e (fails failed)

theorem mk_pure_mapM {f : α → Except ε β} (fails : ∀ x e, f x = .error e → kind e) (xs : List α) :
    FailsWith kind (ExceptT.mk (Pure.pure (xs.mapM f)) : Action σ ε (List β)) :=
  mk_pure fun e failed => by
    obtain ⟨x, _, here⟩ := Except.exists_of_mapM_eq_error failed
    exact fails x e here

theorem mapM {f : α → Action σ ε β} (each : ∀ x, FailsWith kind (f x)) (xs : List α) :
    FailsWith kind (xs.mapM f) := by
  intro s s' e failed
  obtain ⟨_, x, _, _, _, _, _, here⟩ := run_mapM_eq_error failed
  exact each x here

theorem fromStore (action : Action σ StoreError α) :
    FailsWith IsRunFault (fromStore action) := by
  intro s s' e failed
  obtain ⟨refusal, rfl, _⟩ := fromStore_run_eq_error_iff.mp failed
  exact .store refusal

end FailsWith

section Runs

variable {σ : Type} [DocumentStore σ]

namespace CompiledTemplate

theorem accepted_failsWith (t : CompiledTemplate) :
    FailsWith IsRunFault (t.accepted : Action σ MigrationError (List Snapshot)) :=
  (FailsWith.fromStore _).bind fun _ => .pure _

theorem preview_failsWith (t : CompiledTemplate) :
    FailsWith IsRunFault (t.preview : Action σ MigrationError (List DocumentChange)) :=
  t.accepted_failsWith.bind fun documents =>
    .mk_pure_mapM (fun _ _ failed => previewOne_fails failed) documents

theorem staged_failsWith (t : CompiledTemplate) :
    FailsWith IsRunFault (t.staged : Action σ MigrationError (List Write)) := by
  by_cases kind : t.operation = .create
  · unfold staged
    rw [kind]
    exact (FailsWith.mk_pure fun _ failed => newDocument_fails failed).bind fun _ =>
      (FailsWith.fromStore _).bind fun _ => .pure _
  · rw [staged_eq kind]
    exact t.accepted_failsWith.bind fun documents =>
      (FailsWith.mk_pure_mapM (fun _ _ failed => stageOne_fails failed) documents).bind fun _ =>
        .pure _

theorem commitAll_failsWith (batches : List Batch) (outcome : Outcome) :
    FailsWith IsRunFault (commitAll batches outcome : Action σ MigrationError Outcome) := by
  induction batches generalizing outcome with
  | nil => exact .pure _
  | cons batch rest ih => exact (FailsWith.fromStore _).bind fun _ => ih _

theorem migrate_failsWith (t : CompiledTemplate) (limit : Nat) :
    FailsWith IsRunFault (t.migrate limit : Action σ MigrationError Outcome) :=
  t.staged_failsWith.bind fun _ => commitAll_failsWith _ _

end CompiledTemplate

variable {templates : List Template} {e : MigrationError}

/-- Templates of which one does not compile are refused without the store. -/
theorem previewAll_eq_throw (broken : Template.compileAll templates = .error e) :
    (previewAll templates : Action σ MigrationError (List DocumentChange)) = throw e := by
  rw [previewAll, broken]
  rfl

theorem migrateAll_eq_throw (broken : Template.compileAll templates = .error e) (limit : Nat) :
    (migrateAll templates limit : Action σ MigrationError (List Outcome)) = throw e := by
  rw [migrateAll, broken]
  rfl

/-- A list of templates that keep their contract fails for what it meets in the store alone. -/
theorem previewAll_failsWith (keep : ∀ t ∈ templates, t.KeepsContract) :
    FailsWith IsRunFault
      (previewAll templates : Action σ MigrationError (List DocumentChange)) := by
  rw [previewAll_eq keep]
  exact (FailsWith.mapM (fun c => c.preview_failsWith) _).bind fun _ => .pure _

theorem migrateAll_failsWith (keep : ∀ t ∈ templates, t.KeepsContract) (limit : Nat) :
    FailsWith IsRunFault (migrateAll templates limit : Action σ MigrationError (List Outcome)) := by
  rw [migrateAll_eq keep]
  exact .mapM (fun c => c.migrate_failsWith limit) _

end Runs

/-- Compiling draws the line. It accepts just the templates that keep their contract; what it
accepts fails on no store for a fault of the contract, alone or in a list; and what it does not
accept fails every list that it stands in, with the fault of the first such template of the list,
and the run is that error and nothing else, whatever the store would do. -/
theorem compile_finds_contract_faults :
    (∀ t : Template, (∃ c, t.compile = .ok c) ↔ t.KeepsContract) ∧
    (∀ (t : Template) (c : CompiledTemplate), t.compile = .ok c →
      ∀ (σ : Type) [DocumentStore σ],
        FailsWith (fun e => e.IsRunFault ∧ ¬ e.IsContractFault)
          (c.preview : Action σ MigrationError (List DocumentChange)) ∧
        ∀ limit, FailsWith (fun e => e.IsRunFault ∧ ¬ e.IsContractFault)
          (c.migrate limit : Action σ MigrationError Outcome)) ∧
    (∀ templates : List Template, (∀ t ∈ templates, t.KeepsContract) →
      ∀ (σ : Type) [DocumentStore σ],
        FailsWith IsRunFault
          (previewAll templates : Action σ MigrationError (List DocumentChange)) ∧
        ∀ limit, FailsWith IsRunFault
          (migrateAll templates limit : Action σ MigrationError (List Outcome))) ∧
    ∀ (t : Template) (e : MigrationError), t.compile = .error e →
      ∀ templates : List Template, t ∈ templates →
        ∃ before first after fault, templates = before ++ first :: after ∧
          (∀ u ∈ before, ∃ c, u.compile = .ok c) ∧
          first.compile = .error fault ∧ fault.IsContractFault ∧
          ∀ (σ : Type) [DocumentStore σ],
            (previewAll templates : Action σ MigrationError (List DocumentChange)) = throw fault ∧
            ∀ limit,
              (migrateAll templates limit : Action σ MigrationError (List Outcome)) =
                throw fault := by
  refine ⟨fun t => ?_, ?_, ?_, ?_⟩
  · constructor
    · rintro ⟨c, compiled⟩
      exact (Template.compile_eq_ok_iff.mp compiled).1
    · intro keeps
      exact ⟨t.compiled, Template.compile_eq_ok_iff.mpr ⟨keeps, rfl⟩⟩
  · intro t c _ σ _
    exact ⟨c.preview_failsWith.imp fun e run => ⟨run, run.not_isContractFault⟩,
      fun limit => (c.migrate_failsWith limit).imp fun e run => ⟨run, run.not_isContractFault⟩⟩
  · intro templates keep σ _
    exact ⟨previewAll_failsWith keep, migrateAll_failsWith keep⟩
  · intro t e failed templates member
    obtain ⟨before, first, after, fault, rfl, accepted, rejected⟩ :=
      Template.exists_first_rejected member failed
    have broken : Template.compileAll (before ++ first :: after) = .error fault :=
      Template.compileAll_eq_error_of_first accepted rejected
    refine ⟨before, first, after, fault, rfl, accepted, rejected,
      Template.compile_fails rejected, ?_⟩
    intro σ _
    exact ⟨previewAll_eq_throw broken, migrateAll_eq_throw broken⟩

namespace Sample

/-- Its path leads into a list of authors at a segment that is no index. -/
def credit : Template :=
  { operation := .update, collection := "books"
    changes := some [⟨"authors.first", .update, some (.literal (.string "Ada"))⟩] }

def unspecified : Template := { operation := .update, collection := "books" }

def bookcase : MemoryStore :=
  .ofCollection "books" [⟨"b1", [("authors", .array [.string "Bo"])]⟩] ⟨0⟩

def unindexed : MigrationError := .pathError (.arrayIndex "authors.first" "first")

/-- One template that compiles and then meets an array, and one that does not compile. -/
theorem compile_finds_contract_faults_of_credit :
    credit.compile = .ok credit.compiled ∧
    (∃ s, (credit.compiled.migrate 500).run bookcase = (.error unindexed, s)) ∧
    unindexed.IsRunFault ∧ ¬ unindexed.IsContractFault ∧
    unspecified.compile = .error (.missingChanges .update) ∧
    ∃ before first after fault, [credit, unspecified] = before ++ first :: after ∧
      (∀ u ∈ before, ∃ c, u.compile = .ok c) ∧
      first.compile = .error fault ∧ fault.IsContractFault ∧
      ∀ (σ : Type) [DocumentStore σ],
        (previewAll [credit, unspecified] : Action σ MigrationError (List DocumentChange)) =
          throw fault ∧
        ∀ limit, (migrateAll [credit, unspecified] limit : Action σ MigrationError (List Outcome)) =
          throw fault := by
  obtain ⟨-, accepted, -, rejected⟩ := compile_finds_contract_faults
  have compiled : credit.compile = .ok credit.compiled := rfl
  have refused : unspecified.compile = .error (.missingChanges .update) := rfl
  have stopped : ∃ s, (credit.compiled.migrate 500).run bookcase = (.error unindexed, s) := ⟨_, rfl⟩
  obtain ⟨s, ended⟩ := stopped
  have fault := (accepted credit _ compiled MemoryStore).2 500 ended
  exact ⟨compiled, ⟨s, ended⟩, fault.1, fault.2, refused,
    rejected unspecified _ refused _ (List.mem_cons_of_mem _ List.mem_cons_self)⟩

end Sample

end DocumentMigration
