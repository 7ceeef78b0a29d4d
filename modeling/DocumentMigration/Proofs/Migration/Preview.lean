import DocumentMigration.Proofs.Migration.Migrate
import DocumentMigration.Proofs.Store.Listings

/-! A preview asks for listings and for nothing else. Where it shows no row, updates and deletes ask
for the same listings and write nothing. A create shows no row either when no document matches it,
and yet adds its document, so only the collections that nothing is created in are sure to stay. -/
namespace DocumentMigration

open DocumentMigration.Action

variable {σ : Type} [DocumentStore σ]

theorem onlyLists_fromStore {action : Action σ StoreError α} (lists : OnlyLists action) :
    OnlyLists (fromStore action) := by
  intro s
  rw [fromStore_run]
  have listings := lists s
  revert listings
  rcases action.run s with ⟨_ | _, _⟩ <;> exact id

namespace CompiledTemplate

variable {t : CompiledTemplate} {s s' : σ}

theorem onlyLists_accepted (t : CompiledTemplate) :
    OnlyLists (t.accepted : Action σ MigrationError (List Snapshot)) :=
  (onlyLists_fromStore (OnlyLists.list t.collection)).bind fun _ => OnlyLists.pure _

theorem onlyLists_preview (t : CompiledTemplate) :
    OnlyLists (t.preview : Action σ MigrationError (List DocumentChange)) :=
  t.onlyLists_accepted.bind fun _ => OnlyLists.mk_pure _

/-- The documents that a template accepts, as the answer of the store has them. -/
theorem accepted_run (t : CompiledTemplate) (s : σ) :
    (t.accepted.run s).1 = match listed t.collection s with
      | .ok documents => .ok (documents.filter fun d => t.accepts d.data)
      | .error refusal => .error (.storeError refusal) := by
  rw [accepted, run_bind, fromStore_run, listed]
  rcases (DocumentStore.list t.collection).run s with ⟨_ | _, _⟩ <;> rfl

/-- A row is shown for each document that the template accepts. -/
theorem accepted_of_preview_nil (shown : t.preview.run s = (.ok [], s')) :
    t.accepted.run s = (.ok [], s') := by
  obtain ⟨documents, next, read, rest⟩ := run_bind_eq_ok_iff.mp shown
  rw [run_mk_pure, Prod.mk.injEq] at rest
  obtain ⟨rows, rfl⟩ := rest
  have each := Except.mapM_eq_ok_iff.mp rows
  rw [List.forall₂_nil_right_iff] at each
  rwa [each] at read

/-- What a template reports that has found nothing to write. -/
def untouched (t : CompiledTemplate) : Outcome := ⟨t.collection, t.operation, 0, 0⟩

theorem migrate_of_accepted_nil (limit : Nat) (kind : t.operation ≠ .create)
    (unmatched : t.accepted.run s = (.ok [], s')) :
    (t.migrate limit).run s = (.ok t.untouched, s') := by
  have staged : t.staged.run s = (.ok [], s') := by
    rw [staged_eq kind]
    exact run_bind_eq_ok_iff.mpr ⟨[], s', unmatched, rfl⟩
  exact run_bind_eq_ok_iff.mpr ⟨[], s', staged, rfl⟩

end CompiledTemplate

section All

variable {ts : List CompiledTemplate} {templates : List Template} {limit : Nat} {s s' : σ}

theorem onlyLists_previewAll (templates : List Template) :
    OnlyLists (previewAll templates : Action σ MigrationError (List DocumentChange)) :=
  (OnlyLists.mk_pure _).bind fun _ =>
    (OnlyLists.mapM CompiledTemplate.onlyLists_preview _).bind fun _ => OnlyLists.pure _

theorem mapM_preview_cons_eq_nil {t : CompiledTemplate} {parts : List (List DocumentChange)}
    (shown : run ((t :: ts).mapM CompiledTemplate.preview) s = (.ok parts, s'))
    (empty : parts.flatten = []) :
    ∃ rest next, t.accepted.run s = (.ok [], next) ∧
      run (ts.mapM CompiledTemplate.preview) next = (.ok rest, s') ∧ rest.flatten = [] := by
  obtain ⟨first, rest, next, rfl, here, later⟩ := run_mapM_cons_eq_ok_iff.mp shown
  rw [List.flatten_cons, List.append_eq_nil_iff] at empty
  obtain ⟨rfl, empty⟩ := empty
  exact ⟨rest, next, CompiledTemplate.accepted_of_preview_nil here, later, empty⟩

/-- The run asks for the listings that the preview asked for, and finds nothing to write. -/
theorem mapM_migrate_of_preview_nil {parts : List (List DocumentChange)} (limit : Nat)
    (kinds : ∀ t ∈ ts, t.operation ≠ .create)
    (shown : run (ts.mapM CompiledTemplate.preview) s = (.ok parts, s'))
    (empty : parts.flatten = []) :
    run (ts.mapM (CompiledTemplate.migrate · limit)) s = (.ok (ts.map (·.untouched)), s') := by
  induction ts generalizing s parts with
  | nil =>
    rw [List.mapM_nil, run_pure, Prod.mk.injEq] at shown
    rw [shown.2]
    rfl
  | cons t ts ih =>
    obtain ⟨kind, kinds⟩ := List.forall_mem_cons.mp kinds
    obtain ⟨rest, next, unmatched, later, empty⟩ := mapM_preview_cons_eq_nil shown empty
    have first := CompiledTemplate.migrate_of_accepted_nil limit kind unmatched
    exact run_mapM_cons_eq_ok_iff.mpr ⟨_, _, next, rfl, first, ih kinds later empty⟩

section Apart

variable (apart : KeepsApart σ)
include apart

theorem accepted_of_mapM_preview_nil {parts : List (List DocumentChange)}
    (shown : run (ts.mapM CompiledTemplate.preview) s = (.ok parts, s'))
    (empty : parts.flatten = []) :
    ∀ t ∈ ts, (t.accepted.run s).1 = .ok [] := by
  induction ts generalizing s parts with
  | nil => simp
  | cons t ts ih =>
    obtain ⟨rest, next, unmatched, later, empty⟩ := mapM_preview_cons_eq_nil shown empty
    refine List.forall_mem_cons.mpr ⟨by rw [unmatched], fun u member => ?_⟩
    -- Listing the collection of `t` does not change what that of `u` lists.
    have same : listed u.collection next = listed u.collection s :=
      (t.keeps_accepted_of (apart.list u.collection t.collection)).view_eq unmatched
    rw [u.accepted_run, ← same, ← u.accepted_run]
    exact ih later empty u member

theorem listed_migrate_of_accepted_nil {t : CompiledTemplate} {collection : String} (limit : Nat)
    (unmatched : t.collection = collection →
      t.operation ≠ .create ∧ (t.accepted.run s).1 = .ok []) :
    listed collection ((t.migrate limit).run s).2 = listed collection s := by
  by_cases same : t.collection = collection
  · obtain ⟨kind, nothing⟩ := unmatched same
    obtain ⟨next, read⟩ : ∃ next, t.accepted.run s = (.ok [], next) := ⟨_, Prod.ext nothing rfl⟩
    rw [CompiledTemplate.migrate_of_accepted_nil limit kind read]
    exact (t.keeps_accepted_of (apart.list collection t.collection)).view_eq read
  · refine t.keeps_migrate limit (apart.list collection t.collection)
      (apart.allocate collection t.collection) (fun batch here => apart.commit ?_) s
    rw [here]
    exact Ne.symm same

/-- A collection that nothing is created in, and whose documents nothing matches, stays. -/
theorem listed_mapM_migrate {collection : String}
    (unmatched : ∀ t ∈ ts, t.collection = collection →
      t.operation ≠ .create ∧ (t.accepted.run s).1 = .ok []) :
    listed collection (run (ts.mapM (CompiledTemplate.migrate · limit)) s).2 =
      listed collection s := by
  induction ts generalizing s with
  | nil => rfl
  | cons t ts ih =>
    obtain ⟨here, unmatched⟩ := List.forall_mem_cons.mp unmatched
    have first := listed_migrate_of_accepted_nil apart limit here
    rw [List.mapM_cons, run_bind]
    revert first
    rcases (t.migrate limit).run s with ⟨_ | outcome, next⟩ <;> intro first
    · exact first
    · refine Eq.trans ?_ ((ih fun u member same => ?_).trans first)
      · show listed collection (Action.run (_ >>= fun rest => pure (outcome :: rest)) next).2 = _
        rw [run_bind]
        rcases run (ts.mapM (CompiledTemplate.migrate · limit)) next with ⟨_ | _, _⟩ <;> rfl
      · rw [u.accepted_run, same, first, ← same, ← u.accepted_run]
        exact unmatched u member same

end Apart

/-- Where the preview is empty and nothing is created, the run does what the preview did and reports
that it wrote nothing. What is created appears in collections that a create is for, and no other
collection changes. -/
theorem migrateAll_of_preview_nil (limit : Nat)
    (shown : (previewAll templates).run s = (.ok [], s')) :
    ((∀ t ∈ templates, t.operation ≠ .create) →
      (migrateAll templates limit).run s = (.ok (templates.map (·.compiled.untouched)), s') ∧
        Listings s s') ∧
    (KeepsApart σ → ∀ collection,
      (∀ t ∈ templates, t.operation = .create → t.collection ≠ collection) →
      listed collection ((migrateAll templates limit).run s).2 = listed collection s) := by
  have listings := onlyLists_previewAll templates s
  rw [shown] at listings
  obtain ⟨keep, parts, each, empty⟩ := previewAll_eq_ok shown
  rw [migrateAll_eq keep]
  constructor
  · intro kinds
    have done := mapM_migrate_of_preview_nil limit (List.forall_mem_map.mpr kinds) each empty.symm
    rw [List.map_map] at done
    exact ⟨done, listings⟩
  · intro apart collection outside
    have unmatched := accepted_of_mapM_preview_nil apart each empty.symm
    refine listed_mapM_migrate apart fun c member same => ⟨fun creates => ?_, unmatched c member⟩
    obtain ⟨t, inTemplates, rfl⟩ := List.mem_map.mp member
    exact outside t inTemplates creates same

end All

namespace Sample

def guests : MemoryStore := .ofCollection "guests" [⟨"g1", []⟩] ⟨0⟩

/-- Adds a document, and shows one for each document of its collection that passes the filter. -/
def invite : Template :=
  { operation := .create, collection := "hosts", filter := some fun data => !data.isEmpty
    changes := some [{ path := "name", operation := .create }] }

def rename : Template :=
  { operation := .update, collection := "guests", filter := some fun data => !data.isEmpty
    changes := some [{ path := "name", operation := .update }] }

/-- Nothing is shown, and yet a batch is committed. -/
theorem migrateAll_writes_unshown :
    ¬ ∀ (templates : List Template) (limit : Nat) (s s' : MemoryStore),
      (previewAll templates).run s = (.ok [], s') →
      ((migrateAll templates limit).run s).2.commits = s.commits ∧
      ∀ c, ((migrateAll templates limit).run s).2.collections.documents c =
        s.collections.documents c := by
  intro unwritten
  have shown : (previewAll [invite]).run guests = (.ok [], { guests with reads := 1 }) := rfl
  have committed := (unwritten [invite] 500 guests _ shown).1
  have taken : ((migrateAll [invite] 500).run guests).2.commits = 1 := rfl
  rw [taken] at committed
  contradiction

/-- The guest has no members and is not renamed; a host is added. -/
theorem migrateAll_of_preview_nil_on_guests :
    (migrateAll [rename] 1).run guests =
      (.ok [⟨"guests", .update, 0, 0⟩], { guests with reads := 1 }) ∧
    listed "guests" ((migrateAll [invite, rename] 1).run guests).2 = listed "guests" guests := by
  have kinds : ∀ t ∈ [rename], t.operation ≠ .create := by simp [rename]
  have elsewhere : ∀ t ∈ [invite, rename], t.operation = .create → t.collection ≠ "guests" := by
    simp [rename, invite]
  have shown : (previewAll [rename]).run guests = (.ok [], { guests with reads := 1 }) := rfl
  have shownBoth : (previewAll [invite, rename]).run guests =
    (.ok [], { guests with reads := 2 }) := rfl
  exact ⟨((migrateAll_of_preview_nil 1 shown).1 kinds).1,
    (migrateAll_of_preview_nil 1 shownBoth).2 MemoryStore.keepsApart "guests" elsewhere⟩

end Sample

end DocumentMigration
