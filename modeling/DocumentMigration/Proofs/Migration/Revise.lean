import DocumentMigration.Proofs.Migration.Migrate
import DocumentMigration.Proofs.Template.Evaluate
import Mathlib.Algebra.GroupWithZero.Nat
import Mathlib.Data.List.Nodup

/-! What an update or a delete makes of its collection: each document becomes what its own writes
make of it, in place, and no other document matters to it. -/
namespace DocumentMigration

open DocumentMigration.Action MemoryBacked

namespace CompiledTemplate

variable {t : CompiledTemplate} {d d' : Snapshot} {documents : List Snapshot}
variable {writes : List Write} {parts : List (List Write)}

/-- What the template makes of one document by itself. -/
def revised (t : CompiledTemplate) (d : Snapshot) : Option Snapshot :=
  if t.accepts d.data then
    match t.stageOne d with
    | .ok writes => settle writes d
    | .error _ => some d
  else some d

theorem revised_of_accepts (accepts : t.accepts d.data) (staged : t.stageOne d = .ok writes) :
    t.revised d = settle writes d := by
  rw [revised, if_pos accepts, staged]

theorem revised_of_not_accepts (rejects : ¬ t.accepts d.data) : t.revised d = some d := by
  rw [revised, if_neg rejects]

theorem id_of_revised (kept : t.revised d = some d') : d'.id = d.id := by
  unfold revised at kept
  split at kept
  · split at kept
    · exact id_of_settle kept
    · cases kept
      rfl
  · cases kept
    rfl

/-- A document has at most one write, and it names that document. -/
theorem ids_of_stageOne (staged : t.stageOne d = .ok writes) :
    (writes.map Write.id).Sublist [d.id] := by
  by_cases update : t.operation = .update
  · obtain ⟨changes, after, _, rfl⟩ := (stageOne_update_eq_ok_iff update).mp staged
    by_cases empty : after.isEmpty <;> simp [empty, Write.id]
  · rw [stageOne_of_not_update update, Except.ok.injEq] at staged
    subst staged
    simp [Write.id]

theorem ids_of_staged
    (staged : List.Forall₂ (fun d part => t.stageOne d = .ok part) documents parts) :
    (parts.flatten.map Write.id).Sublist (documents.map (·.id)) := by
  induction staged with
  | nil => simp
  | cons first _ ih =>
    rw [List.flatten_cons, List.map_append]
    exact (ids_of_stageOne first).append ih

theorem targeted_of_staged {all : List Snapshot} (sublist : documents.Sublist all)
    (unique : UniqueIds all)
    (staged : List.Forall₂ (fun d part => t.stageOne d = .ok part) documents parts) :
    Targeted parts.flatten all := by
  have named := (ids_of_staged staged).trans (sublist.map (·.id))
  exact ⟨unique.sublist named, fun w member => named.subset (List.mem_map_of_mem member)⟩

/-- The writes of other documents do not matter to a document. -/
theorem settle_of_staged
    (staged : List.Forall₂ (fun d part => t.stageOne d = .ok part) documents parts)
    (unique : UniqueIds documents) (member : d ∈ documents) :
    ∃ part, t.stageOne d = .ok part ∧ settle parts.flatten d = settle part d := by
  have distinct := (targeted_of_staged (List.Sublist.refl _) unique staged).distinct
  induction staged with
  | nil => simp at member
  | @cons first part rest parts here later ih =>
    obtain ⟨fresh, unique⟩ := List.nodup_cons.mp unique
    rw [List.flatten_cons] at distinct ⊢
    rw [settle_append distinct]
    rw [List.map_append, List.nodup_append] at distinct
    rcases List.mem_cons.mp member with rfl | member
    · refine ⟨part, here, ?_⟩
      cases kept : settle part d with
      | none => rfl
      | some d' =>
        refine settle_of_not_named fun named => fresh ?_
        rw [id_of_settle kept] at named
        exact (ids_of_staged later).subset named
    · have other : settle part d = some d := by
        refine settle_of_not_named fun named => fresh ?_
        have same := List.mem_singleton.mp ((ids_of_stageOne here).subset named)
        exact List.mem_map.mpr ⟨d, member, same⟩
      rw [other]
      exact ih unique member distinct.2.1

theorem settle_eq_revised (unique : UniqueIds documents)
    (staged : (documents.filter fun d => t.accepts d.data).mapM t.stageOne = .ok parts)
    (member : d ∈ documents) : settle parts.flatten d = t.revised d := by
  have each := Except.mapM_eq_ok_iff.mp staged
  have sublist : (documents.filter fun d => t.accepts d.data).Sublist documents :=
    List.filter_sublist
  by_cases accepts : t.accepts d.data
  · have matching : d ∈ documents.filter fun d => t.accepts d.data :=
      List.mem_filter.mpr ⟨member, accepts⟩
    obtain ⟨part, here, settled⟩ := settle_of_staged each (unique.sublist (sublist.map _)) matching
    rw [settled, revised_of_accepts accepts here]
  · rw [revised_of_not_accepts accepts]
    refine settle_of_not_named fun named => accepts ?_
    obtain ⟨e, matching, same⟩ := List.mem_map.mp ((ids_of_staged each).subset named)
    obtain ⟨inside, accepted⟩ := List.mem_filter.mp matching
    rwa [List.inj_on_of_nodup_map unique inside member same] at accepted

section Collections

variable {cs : Collections}

theorem targeted_of_matching (unique : UniqueIds (cs.documents t.collection))
    (staged : (t.matching cs).mapM t.stageOne = .ok parts) :
    Targeted parts.flatten (cs.documents t.collection) :=
  targeted_of_staged List.filter_sublist unique (Except.mapM_eq_ok_iff.mp staged)

theorem revise_settle (unique : UniqueIds (cs.documents t.collection))
    (staged : (t.matching cs).mapM t.stageOne = .ok parts) :
    cs.revise t.collection (settle parts.flatten) = cs.revise t.collection t.revised :=
  Collections.revise_congr fun _ => settle_eq_revised unique staged

theorem unique_revise (t : CompiledTemplate) (unique : ∀ c, UniqueIds (cs.documents c))
    (c : String) : UniqueIds ((cs.revise t.collection t.revised).documents c) := by
  by_cases same : c = t.collection
  · rw [same, Collections.documents_revise_self]
    exact (unique t.collection).filterMap fun _ _ => id_of_revised
  · rw [Collections.documents_revise_of_ne _ same]
    exact unique c

theorem commitAll_staged (limit : Nat) (unique : UniqueIds (cs.documents t.collection))
    (staged : (t.matching cs).mapM t.stageOne = .ok parts) :
    cs.commitAll (Batch.chunks ⟨t.collection, parts.flatten⟩ limit) =
      .ok (cs.revise t.collection t.revised) := by
  have targeted := targeted_of_matching unique staged
  rw [Collections.commitAll_chunks_eq_ok limit unique targeted, revise_settle unique staged]

end Collections

variable {limit : Nat} {outcome : Outcome}

/-- A run that ends well has revised the collection. -/
theorem collections_of_migrate {σ : Type} [DocumentStore σ] [MemoryBacked σ] {s s' : σ}
    (kind : t.operation ≠ .create) (ended : (t.migrate limit).run s = (.ok outcome, s'))
    (unique : UniqueIds ((collections s).documents t.collection)) :
    (∃ parts, (t.matching (collections s)).mapM t.stageOne = .ok parts) ∧
      collections s' = (collections s).revise t.collection t.revised := by
  obtain ⟨writes, next, worked, taken⟩ := run_bind_eq_ok_iff.mp ended
  obtain ⟨parts, staged, rfl⟩ := staged_run_eq_ok kind worked
  have taken := collections_of_commitAll taken
  rw [t.keeps_staged.view_eq worked, commitAll_staged limit unique staged] at taken
  exact ⟨⟨parts, staged⟩, (Except.ok.inj taken).symm⟩

section Memory

variable {s : MemoryStore}

theorem staged_run (kind : t.operation ≠ .create) (s : MemoryStore) :
    t.staged.run s = (((t.matching s.collections).mapM t.stageOne).map List.flatten,
      { s with reads := s.reads + 1 }) :=
  staged_run_of_list kind (MemoryStore.list_run t.collection s)

/-- A store in memory counts the batches that it takes. -/
theorem commitAll_run {batches : List Batch} {cs : Collections}
    (taken : s.collections.commitAll batches = .ok cs) (outcome : Outcome) :
    (commitAll batches outcome).run s =
      (.ok { outcome with
          written := outcome.written + (batches.map Batch.size).sum
          batches := outcome.batches + batches.length },
        { s with collections := cs, commits := s.commits + batches.length }) := by
  induction batches generalizing s outcome with
  | nil =>
    cases taken
    rfl
  | cons batch batches ih =>
    obtain ⟨next, first, later⟩ := Collections.commitAll_cons_eq_ok_iff.mp taken
    have committed := MemoryStore.commit_run batch s
    rw [first] at committed
    rw [commitAll, run_bind, fromStore_run_eq_ok_iff.mpr committed]
    dsimp only
    rw [ih (s := { s with collections := next, commits := s.commits + 1 }) later]
    simp only [List.map_cons, List.sum_cons, List.length_cons, Nat.add_assoc, Nat.add_comm 1]

theorem migrate_run_of_staged (limit : Nat) (kind : t.operation ≠ .create)
    (unique : UniqueIds (s.collections.documents t.collection))
    (staged : (t.matching s.collections).mapM t.stageOne = .ok parts) :
    ∃ outcome s', (t.migrate limit).run s = (.ok outcome, s') ∧
      s'.collections = s.collections.revise t.collection t.revised := by
  have worked := staged_run kind s
  rw [staged] at worked
  have taken : ({ s with reads := s.reads + 1 } : MemoryStore).collections.commitAll _ = _ :=
    commitAll_staged limit unique staged
  have committed := commitAll_run taken ⟨t.collection, t.operation, 0, 0⟩
  exact ⟨_, _, run_bind_eq_ok_iff.mpr ⟨_, _, worked, committed⟩, rfl⟩

theorem migrate_run_of_failed {e : MigrationError} (limit : Nat) (kind : t.operation ≠ .create)
    (failed : (t.matching s.collections).mapM t.stageOne = .error e) :
    ∃ s', (t.migrate limit).run s = (.error e, s') := by
  have stopped := staged_run kind s
  rw [failed] at stopped
  exact ⟨_, run_bind_eq_error_iff.mpr (.inl stopped)⟩

end Memory

end CompiledTemplate

end DocumentMigration
