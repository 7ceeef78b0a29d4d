import DocumentMigration.Proofs.Migration.Migrate

/-! A store that keeps every batch that it is handed. Watching changes nothing: what runs on the
watched store ends as it ends on the store itself. -/
namespace DocumentMigration

open DocumentMigration.Action

/-- A store with the batches that it was handed so far, taken or not. -/
structure Recorded (σ : Type) where
  store : σ
  issued : List Batch := []

namespace Recorded

variable {σ ε : Type}

/-- Runs an action of the store that hands it no batch. -/
def inner (action : Action σ ε α) : Action (Recorded σ) ε α := fun r =>
  let (result, store) := action.run r.store
  (result, { r with store })

def commit [DocumentStore σ] (batch : Batch) : Action (Recorded σ) StoreError Unit := do
  modify fun r => { r with issued := r.issued ++ [batch] }
  inner (DocumentStore.commit batch)

instance [DocumentStore σ] : DocumentStore (Recorded σ) where
  list collection := inner (DocumentStore.list collection)
  find collection id := inner (DocumentStore.find collection id)
  allocate collection := inner (DocumentStore.allocate collection)
  commit := commit

/-- An action on the watched store does what another one does on the store. -/
def Mirrors (x : Action (Recorded σ) ε α) (y : Action σ ε α) : Prop :=
  ∀ r, (x.run r).1 = (y.run r.store).1 ∧ (x.run r).2.store = (y.run r.store).2

namespace Mirrors

theorem inner (action : Action σ ε α) : Mirrors (inner action) action := fun _ => ⟨rfl, rfl⟩

theorem pure (a : α) : Mirrors (pure a : Action (Recorded σ) ε α) (pure a) := fun _ => ⟨rfl, rfl⟩

theorem mk_pure (result : Except ε α) :
    Mirrors (ExceptT.mk (Pure.pure result) : Action (Recorded σ) ε α)
      (ExceptT.mk (Pure.pure result)) := fun _ => ⟨rfl, rfl⟩

theorem bind {x : Action (Recorded σ) ε α} {y : Action σ ε α} {f : α → Action (Recorded σ) ε β}
    {g : α → Action σ ε β} (first : Mirrors x y) (later : ∀ a, Mirrors (f a) (g a)) :
    Mirrors (x >>= f) (y >>= g) := by
  intro r
  rw [run_bind, run_bind]
  obtain ⟨same, kept⟩ := first r
  revert same kept
  rcases x.run r with ⟨result, next⟩
  rcases y.run r.store with ⟨result', next'⟩
  rintro rfl rfl
  cases result with
  | error e => exact ⟨rfl, rfl⟩
  | ok a => exact later a next

theorem fromStore {x : Action (Recorded σ) StoreError α} {y : Action σ StoreError α}
    (mirrors : Mirrors x y) : Mirrors (fromStore x) (fromStore y) := by
  intro r
  rw [fromStore_run, fromStore_run]
  obtain ⟨same, kept⟩ := mirrors r
  revert same kept
  rcases x.run r with ⟨result, next⟩
  rcases y.run r.store with ⟨result', next'⟩
  rintro rfl rfl
  cases result <;> exact ⟨rfl, rfl⟩

theorem watched {x : Action (Recorded σ) ε α} {y : Action σ ε α} (mirrors : Mirrors x y)
    {s s' : σ} {result : Except ε α} (ended : y.run s = (result, s')) (before : List Batch) :
    ∃ issued, x.run ⟨s, before⟩ = (result, ⟨s', issued⟩) := by
  obtain ⟨same, kept⟩ := mirrors ⟨s, before⟩
  rw [ended] at same kept
  revert same kept
  rcases x.run ⟨s, before⟩ with ⟨_, next⟩
  rintro rfl rfl
  exact ⟨next.issued, rfl⟩

variable [DocumentStore σ]

theorem commit (batch : Batch) : Mirrors (DocumentStore.commit batch : Action (Recorded σ) _ _)
    (DocumentStore.commit batch) := fun _ => ⟨rfl, rfl⟩

theorem accepted (t : CompiledTemplate) :
    Mirrors (t.accepted : Action (Recorded σ) MigrationError (List Snapshot)) t.accepted :=
  (fromStore (inner _)).bind fun _ => pure _

theorem staged (t : CompiledTemplate) :
    Mirrors (t.staged : Action (Recorded σ) MigrationError (List Write)) t.staged := by
  unfold CompiledTemplate.staged
  cases t.operation with
  | create =>
    exact (mk_pure _).bind fun _ => (fromStore (inner _)).bind fun _ => pure _
  | update => exact (accepted t).bind fun _ => (mk_pure _).bind fun _ => pure _
  | delete => exact (accepted t).bind fun _ => (mk_pure _).bind fun _ => pure _

theorem commitAll (batches : List Batch) (outcome : Outcome) :
    Mirrors (CompiledTemplate.commitAll batches outcome :
      Action (Recorded σ) MigrationError Outcome) (CompiledTemplate.commitAll batches outcome) := by
  induction batches generalizing outcome with
  | nil => exact pure _
  | cons batch batches ih => exact (fromStore (commit batch)).bind fun _ => ih _

theorem migrate (t : CompiledTemplate) (limit : Nat) :
    Mirrors (t.migrate limit : Action (Recorded σ) MigrationError Outcome) (t.migrate limit) :=
  (staged t).bind fun _ => commitAll _ _

end Mirrors

section Issued

variable [DocumentStore σ] {t : CompiledTemplate} {r r' : Recorded σ}

theorem commit_run (batch : Batch) (r : Recorded σ) :
    ((DocumentStore.commit batch).run r).2.issued = r.issued ++ [batch] := rfl

/-- Working writes out hands the store no batch. -/
theorem issued_of_staged {result : Except MigrationError (List Write)}
    (ended : t.staged.run r = (result, r')) : r'.issued = r.issued := by
  have keeps : Keeps issued (t.staged : Action (Recorded σ) MigrationError (List Write)) :=
    t.keeps_staged_of (fun _ => rfl) fun _ => rfl
  exact keeps.view_eq ended

/-- Batches that are all taken have been handed over one after another. -/
theorem issued_of_commitAll {batches : List Batch} {outcome outcome' : Outcome}
    (ended : (CompiledTemplate.commitAll batches outcome).run r = (.ok outcome', r')) :
    r'.issued = r.issued ++ batches := by
  induction batches generalizing r outcome with
  | nil =>
    cases ended
    rw [List.append_nil]
  | cons batch batches ih =>
    obtain ⟨_, next, first, later⟩ := run_bind_eq_ok_iff.mp ended
    have handed := congrArg (·.2.issued) (fromStore_run_eq_ok_iff.mp first)
    rw [ih later, ← handed, commit_run, List.append_assoc, List.singleton_append]

/-- A run that ends well has handed over the chunks of its writes. -/
theorem watched_of_migrate {s next s' : σ} {writes : List Write} {limit : Nat} {outcome : Outcome}
    (staged : t.staged.run s = (.ok writes, next))
    (ended : (t.migrate limit).run s = (.ok outcome, s')) (before : List Batch) :
    (t.migrate limit).run (⟨s, before⟩ : Recorded σ) =
      (.ok outcome, ⟨s', before ++ Batch.chunks ⟨t.collection, writes⟩ limit⟩) := by
  obtain ⟨issued, watched⟩ := (Mirrors.migrate t limit).watched ended before
  obtain ⟨writes', r, worked, committed⟩ := run_bind_eq_ok_iff.mp watched
  obtain ⟨_, first⟩ := (Mirrors.staged t).watched staged before
  obtain ⟨same, rfl⟩ := Prod.mk.inj (worked.symm.trans first)
  cases same
  have handed : issued = _ := issued_of_commitAll committed
  rw [watched, handed, issued_of_staged first]

end Issued

end Recorded

end DocumentMigration
