import DocumentMigration.Proofs.Migration.Migrate

/-! What a failed run leaves behind. It stops in one template: all templates before it are applied,
and of this one either nothing, or the batches before the one that the store refused. -/
namespace DocumentMigration

open DocumentMigration.Action MemoryBacked

variable {σ : Type} [DocumentStore σ] [MemoryBacked σ]

namespace CompiledTemplate

/-- Why a template cannot be worked out from state `s`: the store refuses a read, or a document that
matches, or the document to be created, has no outcome. -/
inductive Unworkable (t : CompiledTemplate) (s s' : σ) : MigrationError → Prop where
  | unread {refusal : StoreError} :
      (DocumentStore.list t.collection).run s = (.error refusal, s') →
      Unworkable t s s' (.storeError refusal)
  | document {d : Snapshot} {e : MigrationError} : d ∈ t.matching (collections s) →
      t.stageOne d = .error e → Unworkable t s s' e
  | created {e : MigrationError} : t.operation = .create → t.newDocument = .error e →
      Unworkable t s s' e
  | unnamed {refusal : StoreError} : t.operation = .create →
      (DocumentStore.allocate t.collection).run s = (.error refusal, s') →
      Unworkable t s s' (.storeError refusal)

/-- How applying a template stops with an error, and what is left of it. -/
inductive Stopped (t : CompiledTemplate) (limit : Nat) (s : σ) (e : MigrationError) (s' : σ) :
    Prop where
  /-- Before any batch, so nothing is. -/
  | working : t.Unworkable s s' e → collections s' = collections s → Stopped t limit s e s'
  /-- At a batch, so those before it are, and no part of it or of a later one. The writes are those
  of the documents that match, in the order of the listing. -/
  | refused {writes : List Write} {next stop : σ} {done rest : List Batch} {batch : Batch}
      {refusal : StoreError} :
      t.staged.run s = (.ok writes, next) →
      (t.operation ≠ .create → ∃ parts,
        (t.matching (collections s)).mapM t.stageOne = .ok parts ∧ writes = parts.flatten) →
      Batch.chunks ⟨t.collection, writes⟩ limit = done ++ batch :: rest →
      (DocumentStore.commit batch).run stop = (.error refusal, s') → e = .storeError refusal →
      (collections s).commitAll done = .ok (collections s') → Stopped t limit s e s'

variable {t : CompiledTemplate} {limit : Nat} {s s' : σ} {e : MigrationError}

theorem unworkable_of_staged (ended : t.staged.run s = (.error e, s')) : t.Unworkable s s' e := by
  by_cases kind : t.operation = .create
  · unfold staged at ended
    simp only [kind, run_bind_eq_error_iff, run_mk_pure, run_pure, Prod.mk.injEq] at ended
    rcases ended with ⟨failed, _⟩ | ⟨data, _, ⟨_, rfl⟩, refused | ⟨_, _, _, impossible, _⟩⟩
    · exact .created kind failed
    · obtain ⟨refusal, rfl, unnamed⟩ := fromStore_run_eq_error_iff.mp refused
      exact .unnamed kind unnamed
    · contradiction
  · rw [staged_eq kind, run_bind_eq_error_iff] at ended
    rcases ended with unread | ⟨documents, next, read, later⟩
    · rw [accepted, run_bind_eq_error_iff] at unread
      rcases unread with unread | ⟨_, _, _, impossible⟩
      · obtain ⟨refusal, rfl, refused⟩ := fromStore_run_eq_error_iff.mp unread
        exact .unread refused
      · cases impossible
    · rcases run_bind_eq_error_iff.mp later with failed | ⟨_, _, _, impossible⟩
      · rw [run_mk_pure, Prod.mk.injEq, eq_matching_of_accepted read] at failed
        obtain ⟨d, member, failed⟩ := Except.exists_of_mapM_eq_error failed.1
        exact .document member failed
      · cases impossible

theorem stopped_of_migrate (ended : (t.migrate limit).run s = (.error e, s')) :
    t.Stopped limit s e s' := by
  rw [migrate, run_bind_eq_error_iff] at ended
  rcases ended with failed | ⟨writes, next, worked, later⟩
  · exact .working (unworkable_of_staged failed) (t.keeps_staged.view_eq failed)
  · obtain ⟨done, batch, rest, stop, refusal, cut, before, refused, rfl⟩ :=
      refused_of_commitAll later
    rw [t.keeps_staged.view_eq worked] at before
    exact .refused worked (staged_run_eq_ok · worked) cut refused rfl before

end CompiledTemplate

/-- A run that fails on a broken contract has not asked the store at all. Any other has applied
every template before the one it stopped in. -/
theorem migrateAll_failed {templates : List Template} {limit : Nat} {s s' : σ} {e : MigrationError}
    (failed : (migrateAll templates limit).run s = (.error e, s')) :
    ((∃ t ∈ templates, ¬ t.KeepsContract) →
      Template.compileAll templates = .error e ∧ s' = s) ∧
    ((∀ t ∈ templates, t.KeepsContract) → ∃ before t after outcomes next,
      templates = before ++ t :: after ∧
      (migrateAll before limit).run s = (.ok outcomes, next) ∧
      t.compiled.Stopped limit next e s') := by
  constructor
  · rintro ⟨t, member, broken⟩
    cases checked : Template.compileAll templates with
    | ok cs => exact (broken ((Template.compileAll_eq_ok_iff.mp checked).1 t member)).elim
    | error e' =>
      have stopped := migrateAll_run_of_broken checked limit s
      rw [failed, Prod.mk.injEq, Except.error.injEq] at stopped
      exact ⟨by rw [stopped.1], stopped.2⟩
  · intro keep
    rw [migrateAll_eq keep] at failed
    obtain ⟨before, c, after, outcomes, next, split, done, stopped⟩ := run_mapM_eq_error failed
    obtain ⟨first, rest, rfl, rfl, cut⟩ := List.map_eq_append_iff.mp split
    obtain ⟨t, later, rfl, rfl, rfl⟩ := List.map_eq_cons_iff.mp cut
    have keepFirst : ∀ t ∈ first, t.KeepsContract := fun t member =>
      keep t (List.mem_append_left _ member)
    rw [← migrateAll_eq keepFirst] at done
    exact ⟨first, t, later, outcomes, next, rfl, done,
      CompiledTemplate.stopped_of_migrate stopped⟩

namespace Sample

def comments : MemoryStore :=
  .ofCollection "comments" [⟨"c1", []⟩, ⟨"c2", []⟩, ⟨"c3", []⟩] ⟨0⟩

def purge : Template := { operation := .delete, collection := "comments" }

def refusal : MigrationError := .storeError (.batchRejected "comments" "read-only")

def afterOneBatch : Limited MemoryStore :=
  ⟨⟨[("comments", [⟨"c2", []⟩, ⟨"c3", []⟩])], 1, 1, ⟨0⟩⟩, some 0⟩

/-- One batch of one write is let through, and no more. -/
theorem migrateAll_failed_of_purge :
    (migrateAll [purge] 1).run (⟨comments, some 1⟩ : Limited MemoryStore) =
      (.error refusal, afterOneBatch) ∧
    ∃ before t after outcomes next, [purge] = before ++ t :: after ∧
      (migrateAll before 1).run (⟨comments, some 1⟩ : Limited MemoryStore) = (.ok outcomes, next) ∧
      t.compiled.Stopped 1 next refusal afterOneBatch := by
  have failed : (migrateAll [purge] 1).run (⟨comments, some 1⟩ : Limited MemoryStore) =
      (.error refusal, afterOneBatch) := rfl
  have keep : ∀ t ∈ [purge], t.KeepsContract := by
    intro t member
    rw [List.mem_singleton.mp member]
    exact .inl rfl
  exact ⟨failed, (migrateAll_failed failed).2 keep⟩

end Sample

end DocumentMigration
