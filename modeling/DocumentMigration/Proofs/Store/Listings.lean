import DocumentMigration.Proofs.Store.Backed
import DocumentMigration.Proofs.Store.Table

/-! What a store does when it is only asked for listings: whatever a listing leaves as it is, any
number of them leaves as it is. A store that keeps its collections apart answers for one of them
whatever is written to the others. -/
namespace DocumentMigration

open DocumentMigration.Action

variable {σ : Type} [DocumentStore σ]

/-- The states that a store gets to from `s` by serving listings and nothing else. -/
inductive Listings (s : σ) : σ → Prop where
  | none : Listings s s
  | next {collection : String} {result : Except StoreError (List Snapshot)} {s' s'' : σ} :
      Listings s s' → (DocumentStore.list collection).run s' = (result, s'') → Listings s s''

namespace Listings

variable {s s' s'' : σ}

theorem trans (first : Listings s s') (later : Listings s' s'') : Listings s s'' := by
  induction later with
  | none => exact first
  | next _ listed ih => exact ih.next listed

theorem view_eq {view : σ → γ} (listings : Listings s s')
    (keeps : ∀ collection,
      Keeps view (DocumentStore.list collection : Action σ StoreError (List Snapshot))) :
    view s' = view s := by
  induction listings with
  | none => rfl
  | next _ listed ih => exact ((keeps _).view_eq listed).trans ih

end Listings

/-- An action that asks the store for listings and for nothing else. -/
def OnlyLists (action : Action σ ε α) : Prop := ∀ s, Listings s (action.run s).2

namespace OnlyLists

theorem list (collection : String) :
    OnlyLists (DocumentStore.list collection : Action σ StoreError (List Snapshot)) :=
  fun _ => Listings.none.next rfl

theorem pure (a : α) : OnlyLists (pure a : Action σ ε α) := fun _ => .none

theorem mk_pure (result : Except ε α) :
    OnlyLists (ExceptT.mk (Pure.pure result) : Action σ ε α) := fun _ => .none

theorem bind {x : Action σ ε α} {f : α → Action σ ε β} (first : OnlyLists x)
    (later : ∀ a, OnlyLists (f a)) : OnlyLists (x >>= f) := by
  intro s
  rw [run_bind]
  have listings := first s
  revert listings
  rcases x.run s with ⟨_ | a, next⟩ <;> intro listings
  · exact listings
  · exact listings.trans (later a next)

theorem mapM {f : α → Action σ ε β} (each : ∀ x, OnlyLists (f x)) (xs : List α) :
    OnlyLists (xs.mapM f) := by
  induction xs with
  | nil => exact pure []
  | cons x xs ih =>
    rw [List.mapM_cons]
    exact (each x).bind fun _ => ih.bind fun _ => pure _

end OnlyLists

/-- What a store answers when it is asked for a collection. -/
def listed (collection : String) (s : σ) : Except StoreError (List Snapshot) :=
  ((DocumentStore.list collection).run s).1

/-- A store that answers for a collection by what was committed to that one. -/
structure KeepsApart (σ : Type) [DocumentStore σ] : Prop where
  list (collection other : String) :
    Keeps (listed collection) (DocumentStore.list other : Action σ StoreError (List Snapshot))
  allocate (collection other : String) :
    Keeps (listed collection) (DocumentStore.allocate other : Action σ StoreError String)
  commit {collection : String} {batch : Batch} (elsewhere : collection ≠ batch.collection) :
    Keeps (listed collection) (DocumentStore.commit batch : Action σ StoreError Unit)

theorem MemoryStore.keepsApart : KeepsApart MemoryStore where
  list _ _ _ := rfl
  allocate _ _ _ := rfl
  commit := by
    intro collection batch elsewhere s
    rw [MemoryStore.commit_run]
    cases ended : s.collections.commit batch with
    | error refusal => rfl
    | ok collections =>
      obtain ⟨documents, _, rfl⟩ := Except.map_eq_ok_iff.mp ended
      exact congrArg Except.ok (Collections.documents_put_of_ne elsewhere)

theorem TableStore.keepsApart [Json.FloatReader] : KeepsApart TableStore where
  list _ _ _ := rfl
  allocate _ _ _ := rfl
  commit := by
    intro collection batch elsewhere s
    rw [TableStore.commit_run]
    cases ended : batch.writes.foldlM (applyWrite batch.collection) s.rows with
    | error refusal => rfl
    | ok rows =>
      exact congrArg (List.mapM readRow) (TableStore.rowsOf_foldlM_of_ne elsewhere ended)

/-- A limit on batches does not show in listings. -/
theorem Limited.keepsApart (apart : KeepsApart σ) : KeepsApart (Limited σ) where
  list collection other s := apart.list collection other s.store
  allocate collection other s := apart.allocate collection other s.store
  commit := by
    intro collection batch elsewhere s
    obtain ⟨result, s', ended⟩ : ∃ result s', (DocumentStore.commit batch).run s = (result, s') :=
      ⟨_, _, rfl⟩
    rw [ended]
    rcases Limited.commit_cases ended with ⟨_, _, rfl⟩ | taken
    · rfl
    · exact (apart.commit elsewhere).view_eq taken

end DocumentMigration
