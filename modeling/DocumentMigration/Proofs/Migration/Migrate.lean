import DocumentMigration.Migration.Basic
import DocumentMigration.Proofs.Store.Backed
import DocumentMigration.Proofs.Template.Contract

/-! Applying one template on a store in memory: staging changes no document, and the batches that
follow change what they say, up to the first that the store refuses. -/
namespace DocumentMigration

open DocumentMigration.Action MemoryBacked

variable {σ : Type}

theorem fromStore_run (action : Action σ StoreError α) (s : σ) :
    (fromStore action).run s = match action.run s with
      | (.ok a, s) => (.ok a, s)
      | (.error e, s) => (.error (.storeError e), s) := rfl

theorem fromStore_run_eq_ok_iff {action : Action σ StoreError α} {s s' : σ} {a : α} :
    (fromStore action).run s = (.ok a, s') ↔ action.run s = (.ok a, s') := by
  rw [fromStore_run]
  rcases action.run s with ⟨_ | _, _⟩ <;> simp

theorem fromStore_run_eq_error_iff {action : Action σ StoreError α} {s s' : σ}
    {e : MigrationError} :
    (fromStore action).run s = (.error e, s') ↔
      ∃ refusal, e = .storeError refusal ∧ action.run s = (.error refusal, s') := by
  rw [fromStore_run]
  rcases action.run s with ⟨_ | _, _⟩ <;> simp [eq_comm]

theorem keeps_fromStore {view : σ → β} {action : Action σ StoreError α}
    (keeps : Keeps view action) : Keeps view (fromStore action) := by
  intro s
  rw [fromStore_run]
  have kept := keeps s
  revert kept
  rcases action.run s with ⟨_ | _, _⟩ <;> exact id

namespace CompiledTemplate

variable [DocumentStore σ] {t : CompiledTemplate} {s s' : σ}

theorem staged_eq (kind : t.operation ≠ .create) :
    (t.staged : Action σ MigrationError (List Write)) = (do
      let documents ← t.accepted
      let writes ← ExceptT.mk (pure (documents.mapM t.stageOne))
      return writes.flatten) := by
  unfold staged
  cases operation : t.operation with
  | create => exact (kind operation).elim
  | update => rfl
  | delete => rfl

section Listing

variable {documents : List Snapshot}

theorem accepted_run_of_list
    (read : (DocumentStore.list t.collection).run s = (.ok documents, s')) :
    t.accepted.run s = (.ok (documents.filter fun d => t.accepts d.data), s') :=
  run_bind_eq_ok_iff.mpr ⟨documents, s', fromStore_run_eq_ok_iff.mpr read, rfl⟩

theorem staged_run_of_list (kind : t.operation ≠ .create)
    (read : (DocumentStore.list t.collection).run s = (.ok documents, s')) :
    t.staged.run s =
      (((documents.filter fun d => t.accepts d.data).mapM t.stageOne).map List.flatten, s') := by
  rw [staged_eq kind, run_bind, accepted_run_of_list read]
  dsimp only
  rw [run_bind_pure, run_mk_pure]

end Listing

section View

variable {view : σ → γ}

theorem keeps_accepted_of (t : CompiledTemplate)
    (list : Keeps view (DocumentStore.list t.collection : Action σ StoreError (List Snapshot))) :
    Keeps view (t.accepted : Action σ MigrationError (List Snapshot)) :=
  (keeps_fromStore list).bind fun _ => keeps_pure _ _

/-- Staging asks the store for a listing or for an id. -/
theorem keeps_staged_of (t : CompiledTemplate)
    (list : Keeps view (DocumentStore.list t.collection : Action σ StoreError (List Snapshot)))
    (allocate : Keeps view (DocumentStore.allocate t.collection : Action σ StoreError String)) :
    Keeps view (t.staged : Action σ MigrationError (List Write)) := by
  by_cases kind : t.operation = .create
  · unfold staged
    rw [kind]
    exact (keeps_mk_pure _ _).bind fun _ =>
      (keeps_fromStore allocate).bind fun _ => keeps_pure _ _
  · rw [staged_eq kind]
    exact (t.keeps_accepted_of list).bind fun _ =>
      (keeps_mk_pure _ _).bind fun _ => keeps_pure _ _

theorem keeps_commitAll {batches : List Batch}
    (commit : ∀ batch ∈ batches,
      Keeps view (DocumentStore.commit batch : Action σ StoreError Unit)) (outcome : Outcome) :
    Keeps view (commitAll batches outcome : Action σ MigrationError Outcome) := by
  induction batches generalizing outcome with
  | nil => exact keeps_pure _ _
  | cons batch batches ih =>
    rw [commitAll]
    obtain ⟨first, later⟩ := List.forall_mem_cons.mp commit
    exact (keeps_fromStore first).bind fun _ => ih later _

/-- Applying a template commits to its own collection only. -/
theorem keeps_migrate (t : CompiledTemplate) (limit : Nat)
    (list : Keeps view (DocumentStore.list t.collection : Action σ StoreError (List Snapshot)))
    (allocate : Keeps view (DocumentStore.allocate t.collection : Action σ StoreError String))
    (commit : ∀ batch : Batch, batch.collection = t.collection →
      Keeps view (DocumentStore.commit batch : Action σ StoreError Unit)) :
    Keeps view (t.migrate limit : Action σ MigrationError Outcome) := by
  refine (t.keeps_staged_of list allocate).bind fun writes => keeps_commitAll ?_ _
  intro batch member
  obtain ⟨part, _, rfl⟩ := List.mem_map.mp member
  exact commit _ rfl

end View

variable [MemoryBacked σ]

/-- The documents of some collections that a template accepts. -/
def matching (t : CompiledTemplate) (cs : Collections) : List Snapshot :=
  (cs.documents t.collection).filter fun d => t.accepts d.data

theorem eq_matching_of_accepted {documents : List Snapshot}
    (ended : t.accepted.run s = (.ok documents, s')) :
    documents = t.matching (collections s) := by
  obtain ⟨listed, next, read, rest⟩ := run_bind_eq_ok_iff.mp ended
  rw [run_pure, Prod.mk.injEq, Except.ok.injEq] at rest
  rw [← rest.1, list_eq (fromStore_run_eq_ok_iff.mp read)]
  rfl

theorem keeps_staged (t : CompiledTemplate) :
    Keeps collections (t.staged : Action σ MigrationError (List Write)) :=
  t.keeps_staged_of (list_keeps t.collection) (allocate_keeps t.collection)

/-- Staging an update or a delete works every matching document out before anything is written. -/
theorem staged_run_eq_ok {writes : List Write} (kind : t.operation ≠ .create)
    (ended : t.staged.run s = (.ok writes, s')) :
    ∃ parts, (t.matching (collections s)).mapM t.stageOne = .ok parts ∧ writes = parts.flatten := by
  rw [staged_eq kind] at ended
  obtain ⟨documents, next, read, rest⟩ := run_bind_eq_ok_iff.mp ended
  obtain ⟨parts, _, worked, last⟩ := run_bind_eq_ok_iff.mp rest
  rw [run_mk_pure, Prod.mk.injEq, eq_matching_of_accepted read] at worked
  rw [run_pure, Prod.mk.injEq, Except.ok.injEq] at last
  exact ⟨parts, worked.1, last.1.symm⟩

/-- Batches that are all taken change the collections by what they hold. -/
theorem collections_of_commitAll {batches : List Batch} {outcome outcome' : Outcome}
    (ended : (commitAll batches outcome).run s = (.ok outcome', s')) :
    (collections s).commitAll batches = .ok (collections s') := by
  induction batches generalizing s outcome with
  | nil =>
    rw [commitAll, run_pure, Prod.mk.injEq] at ended
    rw [ended.2]
    rfl
  | cons batch batches ih =>
    rw [commitAll] at ended
    obtain ⟨_, next, first, later⟩ := run_bind_eq_ok_iff.mp ended
    have taken := commit_taken (fromStore_run_eq_ok_iff.mp first)
    exact Collections.commitAll_cons_eq_ok_iff.mpr ⟨_, taken, ih later⟩

/-- If not all batches are taken, those before the first that is refused have changed the
collections, and nothing else has. -/
theorem refused_of_commitAll {batches : List Batch} {outcome : Outcome} {e : MigrationError}
    (ended : (commitAll batches outcome).run s = (.error e, s')) :
    ∃ done batch rest next refusal, batches = done ++ batch :: rest ∧
      (collections s).commitAll done = .ok (collections s') ∧
      (DocumentStore.commit batch).run next = (.error refusal, s') ∧ e = .storeError refusal := by
  induction batches generalizing s outcome with
  | nil => cases ended
  | cons batch batches ih =>
    rw [commitAll, run_bind_eq_error_iff] at ended
    rcases ended with here | ⟨_, next, first, later⟩
    · obtain ⟨refusal, rfl, refused⟩ := fromStore_run_eq_error_iff.mp here
      refine ⟨[], batch, batches, s, refusal, rfl, ?_, refused, rfl⟩
      rw [commit_refused refused]
      rfl
    · obtain ⟨done, other, rest, stop, refusal, rfl, before, refused, rfl⟩ := ih later
      have taken := commit_taken (fromStore_run_eq_ok_iff.mp first)
      refine ⟨batch :: done, other, rest, stop, refusal, rfl, ?_, refused, rfl⟩
      exact Collections.commitAll_cons_eq_ok_iff.mpr ⟨_, taken, before⟩

end CompiledTemplate

section All

variable [DocumentStore σ] {templates : List Template}

theorem compileAll_of_keepsContract (keep : ∀ t ∈ templates, t.KeepsContract) :
    Template.compileAll templates = .ok (templates.map Template.compiled) :=
  Template.compileAll_eq_ok_iff.mpr ⟨keep, rfl⟩

theorem migrateAll_eq (keep : ∀ t ∈ templates, t.KeepsContract) (limit : Nat) :
    (migrateAll templates limit : Action σ MigrationError (List Outcome)) =
      (templates.map Template.compiled).mapM fun t : CompiledTemplate => t.migrate limit := by
  rw [migrateAll, compileAll_of_keepsContract keep]
  rfl

theorem previewAll_eq (keep : ∀ t ∈ templates, t.KeepsContract) :
    (previewAll templates : Action σ MigrationError (List DocumentChange)) = (do
      let rows ← (templates.map Template.compiled).mapM fun t : CompiledTemplate => t.preview
      return rows.flatten) := by
  rw [previewAll, compileAll_of_keepsContract keep]
  rfl

/-- The templates of a preview, and the rows of each, if it shows any at all. -/
theorem previewAll_eq_ok {rows : List DocumentChange} {s s' : σ}
    (shown : (previewAll templates).run s = (.ok rows, s')) :
    (∀ t ∈ templates, t.KeepsContract) ∧ ∃ parts,
      run ((templates.map Template.compiled).mapM CompiledTemplate.preview) s = (.ok parts, s') ∧
        rows = parts.flatten := by
  obtain ⟨cs, next, compiled, _⟩ := run_bind_eq_ok_iff.mp shown
  rw [run_mk_pure, Prod.mk.injEq] at compiled
  have keep := (Template.compileAll_eq_ok_iff.mp compiled.1).1
  rw [previewAll_eq keep] at shown
  obtain ⟨parts, _, each, last⟩ := run_bind_eq_ok_iff.mp shown
  rw [run_pure, Prod.mk.injEq, Except.ok.injEq] at last
  obtain ⟨rfl, rfl⟩ := last
  exact ⟨keep, parts, each, rfl⟩

/-- A template that breaks its contract fails the whole run before the store is asked. -/
theorem migrateAll_run_of_broken {e : MigrationError}
    (broken : Template.compileAll templates = .error e) (limit : Nat) (s : σ) :
    (migrateAll templates limit).run s = (.error e, s) := by
  rw [migrateAll, run_bind, run_mk_pure, broken]

end All

end DocumentMigration
