import DocumentMigration.Store.Limited
import DocumentMigration.Proofs.Store.Collections

/-! Stores that keep their documents in memory. Such a store may refuse any read or any batch, but
what it answers it reads off its collections, and a batch that it takes does to these what it does
to collections by themselves. -/
namespace DocumentMigration

open DocumentMigration.Action

/-- A store whose documents are collections in memory, whatever else it keeps. -/
class MemoryBacked (σ : Type) [DocumentStore σ] where
  collections : σ → Collections
  list_keeps (collection : String) :
    Keeps collections (DocumentStore.list collection : Action σ StoreError (List Snapshot))
  list_eq {collection : String} {documents : List Snapshot} {s s' : σ}
    (listed : (DocumentStore.list collection).run s = (.ok documents, s')) :
    documents = (collections s).documents collection
  allocate_keeps (collection : String) :
    Keeps collections (DocumentStore.allocate collection : Action σ StoreError String)
  commit_taken {batch : Batch} {s s' : σ}
    (taken : (DocumentStore.commit batch).run s = (.ok (), s')) :
    (collections s).commit batch = .ok (collections s')
  commit_refused {batch : Batch} {refusal : StoreError} {s s' : σ}
    (refused : (DocumentStore.commit batch).run s = (.error refusal, s')) :
    collections s' = collections s

namespace MemoryStore

theorem list_run (collection : String) (s : MemoryStore) :
    (DocumentStore.list collection).run s =
      (.ok (s.collections.documents collection), { s with reads := s.reads + 1 }) := rfl

theorem find_run (collection id : String) (s : MemoryStore) :
    (DocumentStore.find collection id).run s =
      (.ok ((s.collections.documents collection).find? (·.id = id)),
        { s with reads := s.reads + 1 }) := rfl

theorem allocate_run (collection : String) (s : MemoryStore) :
    (DocumentStore.allocate collection).run s =
      (.ok (s.ids.draw ((s.collections.documents collection).map (·.id))).1,
        { s with ids := (s.ids.draw ((s.collections.documents collection).map (·.id))).2 }) := rfl

theorem commit_run (batch : Batch) (s : MemoryStore) :
    (DocumentStore.commit batch).run s = match s.collections.commit batch with
      | .ok collections => (.ok (), { s with collections, commits := s.commits + 1 })
      | .error refusal => (.error refusal, s) := by
  show (MemoryStore.commit batch).run s = _
  unfold MemoryStore.commit Collections.commit
  rw [run_bind, run_get]
  dsimp only
  cases stage batch (s.collections.documents batch.collection) <;> rfl

instance : MemoryBacked MemoryStore where
  collections := collections
  list_keeps _ _ := rfl
  list_eq := by
    intro collection documents s s' listed
    rw [list_run, Prod.mk.injEq, Except.ok.injEq] at listed
    exact listed.1.symm
  allocate_keeps _ _ := rfl
  commit_taken := by
    intro batch s s' taken
    rw [commit_run] at taken
    cases staged : s.collections.commit batch with
    | error refusal => simp [staged] at taken
    | ok collections =>
      simp only [staged, Prod.mk.injEq, true_and] at taken
      rw [← taken]
  commit_refused := by
    intro batch refusal s s' refused
    rw [commit_run] at refused
    cases staged : s.collections.commit batch with
    | error refusal =>
      simp only [staged, Prod.mk.injEq] at refused
      rw [refused.2]
    | ok collections => simp [staged] at refused

end MemoryStore

namespace Limited

variable {σ : Type}

theorem inner_run (action : Action σ ε α) (s : Limited σ) :
    (inner action).run s =
      ((action.run s.store).1, { s with store := (action.run s.store).2 }) := rfl

variable [DocumentStore σ]

theorem commit_run (batch : Batch) (s : Limited σ) :
    (DocumentStore.commit batch).run s = match s.allowed with
      | some 0 => (.error (.batchRejected batch.collection "read-only"), s)
      | some (n + 1) => (inner (DocumentStore.commit batch)).run { s with allowed := some n }
      | none => (inner (DocumentStore.commit batch)).run s := by
  obtain ⟨store, allowed⟩ := s
  show (Limited.commit batch).run _ = _
  unfold Limited.commit
  rw [run_bind]
  cases allowed with
  | none => rfl
  | some n => cases n <;> rfl

/-- A batch either meets the limit, or it goes to the store behind it. -/
theorem commit_cases {batch : Batch} {result : Except StoreError Unit} {s s' : Limited σ}
    (ended : (DocumentStore.commit batch).run s = (result, s')) :
    (∃ refusal, result = .error refusal ∧ s' = s) ∨
      (DocumentStore.commit batch).run s.store = (result, s'.store) := by
  rw [commit_run] at ended
  obtain ⟨store, allowed⟩ := s
  cases allowed with
  | none =>
    cases ended
    exact .inr rfl
  | some n =>
    cases n with
    | zero =>
      cases ended
      exact .inl ⟨_, rfl, rfl⟩
    | succ n =>
      cases ended
      exact .inr rfl

instance [MemoryBacked σ] : MemoryBacked (Limited σ) where
  collections s := MemoryBacked.collections s.store
  list_keeps collection s := MemoryBacked.list_keeps collection s.store
  list_eq := by
    intro collection documents s s' listed
    have here := (inner_run (DocumentStore.list collection) s).symm.trans listed
    rw [Prod.mk.injEq] at here
    exact MemoryBacked.list_eq (Prod.ext here.1 rfl)
  allocate_keeps collection s := MemoryBacked.allocate_keeps collection s.store
  commit_taken := by
    intro batch s s' taken
    rcases commit_cases taken with ⟨_, impossible, _⟩ | here
    · contradiction
    · exact MemoryBacked.commit_taken here
  commit_refused := by
    intro batch refusal s s' refused
    rcases commit_cases refused with ⟨_, _, rfl⟩ | here
    · rfl
    · exact MemoryBacked.commit_refused here

end Limited

end DocumentMigration
