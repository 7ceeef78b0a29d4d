import DocumentMigration.Proofs.Change.Apply
import DocumentMigration.Proofs.Migration.Failure
import DocumentMigration.Proofs.Migration.Revise

/-! Running a template again. If the template writes constants at separate paths, or deletes, it
finds nothing more to do at a document that it is done with; so wherever a run was cut off, another
one brings the collection to where one whole run would have brought it. -/
namespace DocumentMigration

open DocumentMigration.Action MemoryBacked Json

namespace AttributeTemplate

variable {a : AttributeTemplate}

/-- An attribute whose value does not depend on the document. -/
def Constant (a : AttributeTemplate) : Prop := a.value = none ∨ ∃ v, a.value = some (.literal v)

/-- What a constant attribute writes. -/
def constant (a : AttributeTemplate) : Option Value :=
  if a.operation.writesNewValue then
    match a.value with
    | some (.literal v) => some v
    | _ => some .null
  else none

/-- The change of a constant attribute at a document. -/
def change (document : Object) (a : AttributeTemplate) : AttributeChange :=
  a.writing document a.constant

theorem evaluate_of_constant (constant : a.Constant) (document : Object) :
    a.evaluate document = .ok (a.change document) := by
  refine evaluate_eq_ok_iff.mpr ⟨a.constant, ?_, rfl⟩
  unfold newValue AttributeTemplate.constant
  rcases constant with unvalued | ⟨v, literal⟩
  · cases a.operation.writesNewValue <;> simp [unvalued]
  · cases a.operation.writesNewValue <;> simp [literal, ValueSource.resolve]

end AttributeTemplate

/-- A delete, or an update with constant values at paths that do not overlap. -/
def Template.Repeatable (t : Template) : Prop :=
  t.operation = .delete ∨ t.operation = .update ∧ (∀ a ∈ t.attributes, a.Constant) ∧
    t.attributes.Pairwise fun a b => Path.overlap a.path b.path = false

theorem Template.Repeatable.kind {t : Template} (repeatable : t.Repeatable) :
    t.compiled.operation ≠ .create := by
  rcases repeatable with delete | ⟨update, _⟩
  · exact fun create => nomatch delete.symm.trans create
  · exact fun create => nomatch update.symm.trans create

/-- Which old value a change has read is of no account to what it does. -/
theorem Change.applyAll_change (attributes : List AttributeTemplate) (first second : Object)
    (v : Value) :
    applyAll (attributes.map (·.change first)) v =
      applyAll (attributes.map (·.change second)) v := by
  induction attributes generalizing v with
  | nil => rfl
  | cons a attributes ih =>
    have same : applyOne (a.change first) v = applyOne (a.change second) v := rfl
    rw [List.map_cons, List.map_cons, applyAll, applyAll, same]
    split
    · exact ih _
    · rfl

namespace CompiledTemplate

variable {t : CompiledTemplate}

theorem evaluate_of_constant (constant : ∀ a ∈ t.attributes, a.Constant) (document : Object) :
    t.evaluate document = .ok (t.attributes.map (·.change document)) := by
  refine Except.mapM_eq_ok_iff.mpr (List.forall₂_map_right_iff.mpr ?_)
  refine List.forall₂_same.mpr fun a member => ?_
  exact AttributeTemplate.evaluate_of_constant (constant a member) document

/-- Transforming the result of a transformation gives the same result. -/
theorem transform_again (constant : ∀ a ∈ t.attributes, a.Constant)
    (separate : t.attributes.Pairwise fun a b => Path.overlap a.path b.path = false)
    {document after : Object} {changes : List AttributeChange}
    (made : t.transform document = .ok (changes, after)) :
    ∃ changes', t.transform after = .ok (changes', after) := by
  obtain ⟨evaluated, applied⟩ := transform_eq_ok_iff.mp made
  rw [evaluate_of_constant constant, Except.ok.injEq] at evaluated
  subst evaluated
  have apart : Change.Separate (t.attributes.map (·.change document)) :=
    List.pairwise_map.mpr separate
  have again := Change.applied_applied apart applied
  rw [Change.applied_eq_ok_iff, Change.applyAll_change _ document after] at again
  exact ⟨_, transform_eq_ok_iff.mpr
    ⟨evaluate_of_constant constant after, Change.applied_eq_ok_iff.mpr again⟩⟩

/-- The template has nothing more to do at a document. -/
structure Done (t : CompiledTemplate) (d : Snapshot) : Prop where
  works : t.accepts d.data → ∃ writes, t.stageOne d = .ok writes
  stays : t.revised d = some d

variable {d d' : Snapshot}

theorem done_of_not_accepts (rejects : ¬ t.accepts d.data) : t.Done d :=
  ⟨fun accepts => (rejects accepts).elim, revised_of_not_accepts rejects⟩

/-- An update leaves a document alone, or makes it one at which nothing is left to do. -/
theorem done_of_transform (update : t.operation = .update) (accepts : t.accepts d.data)
    {changes : List AttributeChange} {after : Object}
    (made : t.transform d.data = .ok (changes, after))
    (again : ∃ changes', t.transform after = .ok (changes', after))
    (kept : t.revised d = some d') : t.Done d' := by
  obtain ⟨changes', again⟩ := again
  have staged := (stageOne_update_eq_ok_iff update).mpr ⟨changes, after, made, rfl⟩
  rw [revised_of_accepts accepts staged] at kept
  by_cases empty : after.isEmpty
  · rw [if_pos empty, settle_nil] at kept
    cases kept
    rw [if_pos empty] at staged
    exact ⟨fun _ => ⟨[], staged⟩, revised_of_accepts accepts staged⟩
  · rw [if_neg empty] at kept
    obtain rfl : ⟨d.id, after⟩ = d' := Option.some.inj ((settle_cons_of_eq rfl).symm.trans kept)
    by_cases acceptsAgain : t.accepts after
    · have stagedAgain : t.stageOne ⟨d.id, after⟩ = _ :=
        (stageOne_update_eq_ok_iff update).mpr ⟨changes', after, again, rfl⟩
      refine ⟨fun _ => ⟨_, stagedAgain⟩, ?_⟩
      rw [revised_of_accepts acceptsAgain stagedAgain, if_neg empty]
      exact settle_cons_of_eq rfl
    · exact done_of_not_accepts acceptsAgain

theorem done_of_revised {t : Template} (repeatable : t.Repeatable)
    (works : t.compiled.accepts d.data → ∃ writes, t.compiled.stageOne d = .ok writes)
    (kept : t.compiled.revised d = some d') : t.compiled.Done d' := by
  by_cases accepts : t.compiled.accepts d.data
  · obtain ⟨writes, staged⟩ := works accepts
    rcases repeatable with delete | ⟨update, constant, separate⟩
    · have other : t.compiled.operation ≠ .update := fun update => nomatch delete.symm.trans update
      have removed := stageOne_of_not_update other d
      rw [revised_of_accepts accepts removed, settle_cons_of_eq rfl] at kept
      cases kept
    · obtain ⟨changes, after, made, _⟩ := (stageOne_update_eq_ok_iff update).mp staged
      exact done_of_transform update accepts made (transform_again constant separate made) kept
  · rw [revised_of_not_accepts accepts] at kept
    cases kept
    exact done_of_not_accepts accepts

/-- Part of a run over a collection: each document is as before the run, or the run is done with
it. -/
structure Partway (t : CompiledTemplate) (cs : Collections) (f : Snapshot → Option Snapshot) :
    Prop where
  ids : ∀ d d', f d = some d' → d'.id = d.id
  each : ∀ d ∈ cs.documents t.collection, f d = some d ∨ f d = t.revised d

theorem partway_revised (t : CompiledTemplate) (cs : Collections) : t.Partway cs t.revised :=
  ⟨fun _ _ => id_of_revised, fun _ _ => .inr rfl⟩

section Partway

variable {t : Template} {cs : Collections} {f : Snapshot → Option Snapshot}
variable {parts : List (List Write)}

theorem partway_first (unique : UniqueIds (cs.documents t.collection))
    (staged : (t.compiled.matching cs).mapM t.compiled.stageOne = .ok parts)
    {first later : List Write} (split : parts.flatten = first ++ later) :
    t.compiled.Partway cs (settle first) := by
  refine ⟨fun _ _ => id_of_settle, fun d member => (settle_left first later d).imp_right ?_⟩
  intro same
  rw [same, ← split]
  exact settle_eq_revised unique staged member

theorem Partway.unique (partway : t.compiled.Partway cs f)
    (unique : UniqueIds (cs.documents t.collection)) :
    UniqueIds ((cs.revise t.collection f).documents t.collection) := by
  rw [Collections.documents_revise_self]
  exact unique.filterMap partway.ids

theorem works_of_staged (staged : (t.compiled.matching cs).mapM t.compiled.stageOne = .ok parts)
    (member : d ∈ cs.documents t.collection) (accepts : t.compiled.accepts d.data) :
    ∃ writes, t.compiled.stageOne d = .ok writes := by
  have matching : d ∈ t.compiled.matching cs := List.mem_filter.mpr ⟨member, accepts⟩
  obtain ⟨writes, _, staged⟩ := Except.exists_mem_of_mapM staged matching
  exact ⟨writes, staged⟩

/-- From partway on, the template can be worked out again. -/
theorem Partway.staged (partway : t.compiled.Partway cs f) (repeatable : t.Repeatable)
    (staged : (t.compiled.matching cs).mapM t.compiled.stageOne = .ok parts) :
    ∃ parts', (t.compiled.matching (cs.revise t.collection f)).mapM t.compiled.stageOne =
      .ok parts' := by
  refine Except.exists_mapM_eq_ok fun d' matching => ?_
  obtain ⟨inside, accepts⟩ := List.mem_filter.mp matching
  have inside : d' ∈ (cs.revise t.collection f).documents t.collection := inside
  rw [Collections.documents_revise_self] at inside
  obtain ⟨d, member, kept⟩ := List.mem_filterMap.mp inside
  -- An old document that the run has not come to, or one that it is done with.
  rcases partway.each d member with untouched | finished
  · cases untouched.symm.trans kept
    exact works_of_staged staged member accepts
  · have works := works_of_staged staged member
    exact (done_of_revised repeatable works (finished.symm.trans kept)).works accepts

/-- From partway on, a whole run ends where it would have ended from the start. -/
theorem Partway.revise (partway : t.compiled.Partway cs f) (repeatable : t.Repeatable)
    (staged : (t.compiled.matching cs).mapM t.compiled.stageOne = .ok parts) :
    (cs.revise t.collection f).revise t.collection t.compiled.revised =
      cs.revise t.collection t.compiled.revised := by
  rw [Collections.revise_revise]
  refine Collections.revise_congr fun d member => ?_
  rcases partway.each d member with untouched | finished
  · rw [untouched, Option.bind_some]
  · rw [finished]
    cases kept : t.compiled.revised d with
    | none => rfl
    | some d' => exact (done_of_revised repeatable (works_of_staged staged member) kept).stays

end Partway

end CompiledTemplate

section Single

variable {σ : Type} [DocumentStore σ] {t : Template} {limit : Nat} {s s' : σ}

theorem migrateAll_single_eq_ok {outcomes : List Outcome}
    (ended : (migrateAll [t] limit).run s = (.ok outcomes, s')) :
    t.KeepsContract ∧ ∃ outcome, (t.compiled.migrate limit).run s = (.ok outcome, s') := by
  obtain ⟨cs, _, compiled, _⟩ := run_bind_eq_ok_iff.mp ended
  rw [run_mk_pure, Prod.mk.injEq] at compiled
  have keep := (Template.compileAll_eq_ok_iff.mp compiled.1).1
  rw [migrateAll_eq keep] at ended
  obtain ⟨outcome, rest, next, _, done, last⟩ := run_mapM_cons_eq_ok_iff.mp ended
  cases last
  exact ⟨keep t List.mem_cons_self, outcome, done⟩

theorem migrateAll_single_of_ok {outcome : Outcome} (keeps : t.KeepsContract)
    (done : (t.compiled.migrate limit).run s = (.ok outcome, s')) :
    (migrateAll [t] limit).run s = (.ok [outcome], s') := by
  rw [migrateAll_eq (List.forall_mem_singleton.mpr keeps)]
  exact run_mapM_cons_eq_ok_iff.mpr ⟨outcome, [], s', rfl, done, rfl⟩

theorem migrateAll_single_refused {refusal : StoreError}
    (ended : (migrateAll [t] limit).run s = (.error (.storeError refusal), s')) :
    t.KeepsContract ∧ (t.compiled.migrate limit).run s = (.error (.storeError refusal), s') := by
  rcases run_bind_eq_error_iff.mp ended with broken | ⟨cs, _, compiled, _⟩
  · rw [run_mk_pure, Prod.mk.injEq] at broken
    obtain ⟨u, _, failed⟩ := Except.exists_of_mapM_eq_error broken.1
    rcases Template.compile_eq_error failed with ⟨_, other⟩ | ⟨_, other⟩ | ⟨_, _, other⟩ <;>
      cases other
  · rw [run_mk_pure, Prod.mk.injEq] at compiled
    have keep := (Template.compileAll_eq_ok_iff.mp compiled.1).1
    rw [migrateAll_eq keep] at ended
    rcases run_mapM_cons_eq_error_iff.mp ended with here | ⟨_, _, _, later⟩
    · exact ⟨keep t List.mem_cons_self, here⟩
    · cases later

end Single

/-- A store with a limit refuses only batches, so a run that it refuses was worked out and has
come partway. -/
theorem CompiledTemplate.partway_of_refused {t : Template} (kind : t.operation ≠ .create)
    {m : MemoryStore} {allowed : Option Nat} {limit : Nat} {refusal : StoreError}
    {l : Limited MemoryStore} (unique : UniqueIds (m.collections.documents t.collection))
    (refused : (t.compiled.migrate limit).run ⟨m, allowed⟩ = (.error (.storeError refusal), l)) :
    ∃ parts f, (t.compiled.matching m.collections).mapM t.compiled.stageOne = .ok parts ∧
      t.compiled.Partway m.collections f ∧
      l.store.collections = m.collections.revise t.collection f := by
  cases stopped_of_migrate refused with
  | working unworkable _ =>
    cases unworkable with
    | unread impossible => cases impossible
    | unnamed create _ => exact (kind create).elim
    | created create _ => exact (kind create).elim
    | document _ failed =>
      rcases stageOne_eq_error failed with ⟨_, _, other⟩ | ⟨_, other⟩ <;> cases other
  | refused _ works cut _ _ before =>
    obtain ⟨parts, staged, rfl⟩ := works kind
    have targeted := targeted_of_matching unique staged
    obtain ⟨first, later, split, reached⟩ :=
      Collections.commitAll_eq_ok_of_chunks unique targeted cut
    have same : l.store.collections = _ := Except.ok.inj (before.symm.trans reached)
    exact ⟨parts, settle first, staged, partway_first unique staged split, same⟩

namespace CompiledTemplate.Partway

variable {t : Template} {cs : Collections} {f : Snapshot → Option Snapshot}
variable {parts : List (List Write)} {limit : Nat}

/-- Wherever a run was cut off, another one can be taken from there to the end. -/
theorem migrate_run (partway : t.compiled.Partway cs f) (repeatable : t.Repeatable)
    (unique : UniqueIds (cs.documents t.collection))
    (staged : (t.compiled.matching cs).mapM t.compiled.stageOne = .ok parts) (limit : Nat)
    {s : MemoryStore} (here : s.collections = cs.revise t.collection f) :
    ∃ outcome s', (t.compiled.migrate limit).run s = (.ok outcome, s') ∧
      s'.collections = cs.revise t.collection t.compiled.revised := by
  obtain ⟨parts', staged'⟩ := partway.staged repeatable staged
  have unique' := partway.unique unique
  rw [← here] at staged' unique'
  obtain ⟨outcome, s', done, reached⟩ :=
    migrate_run_of_staged limit repeatable.kind unique' staged'
  rw [here] at reached
  exact ⟨outcome, s', done, reached.trans (partway.revise repeatable staged)⟩

/-- Any run that is taken from there to the end comes to the same collections. -/
theorem collections_eq {σ : Type} [DocumentStore σ] [MemoryBacked σ]
    (partway : t.compiled.Partway cs f) (repeatable : t.Repeatable)
    (unique : UniqueIds (cs.documents t.collection))
    (staged : (t.compiled.matching cs).mapM t.compiled.stageOne = .ok parts) {s s' : σ}
    {outcome : Outcome} (here : collections s = cs.revise t.collection f)
    (ended : (t.compiled.migrate limit).run s = (.ok outcome, s')) :
    collections s' = cs.revise t.collection t.compiled.revised := by
  have unique' := partway.unique unique
  rw [← here] at unique'
  rw [(collections_of_migrate repeatable.kind ended unique').2, here]
  exact partway.revise repeatable staged

end CompiledTemplate.Partway

/-- After a run that was cut off, another brings the store to where one whole run brings it, and it
gets there if it is let. After a run that ended well, another changes nothing. -/
theorem migrateAll_rerun {t : Template} (repeatable : t.Repeatable) {m : MemoryStore}
    (unique : UniqueIds (m.collections.documents t.collection)) (first second whole : Nat) :
    (∀ n refusal l, (migrateAll [t] first).run (⟨m, some n⟩ : Limited MemoryStore) =
        (.error (.storeError refusal), l) →
      ∃ outcomes u, (migrateAll [t] whole).run m = (.ok outcomes, u) ∧
        (∃ outcomes' v, (migrateAll [t] second).run l.store = (.ok outcomes', v)) ∧
        ∀ allowed outcomes' l',
          (migrateAll [t] second).run (⟨l.store, allowed⟩ : Limited MemoryStore) =
            (.ok outcomes', l') →
          l'.store.collections = u.collections) ∧
    ∀ outcomes u, (migrateAll [t] first).run m = (.ok outcomes, u) →
      ∃ outcomes' v, (migrateAll [t] second).run u = (.ok outcomes', v) ∧
        v.collections = u.collections := by
  constructor
  · intro n refusal l interrupted
    obtain ⟨keeps, refused⟩ := migrateAll_single_refused interrupted
    obtain ⟨parts, f, staged, partway, here⟩ :=
      CompiledTemplate.partway_of_refused repeatable.kind unique refused
    obtain ⟨outcome, u, done, reached⟩ :=
      CompiledTemplate.migrate_run_of_staged whole repeatable.kind unique staged
    obtain ⟨outcome', v, doneAgain, _⟩ :=
      partway.migrate_run repeatable unique staged second here
    refine ⟨_, u, migrateAll_single_of_ok keeps done,
      ⟨_, v, migrateAll_single_of_ok keeps doneAgain⟩, ?_⟩
    intro allowed outcomes' l' resumed
    obtain ⟨_, outcome'', resumed⟩ := migrateAll_single_eq_ok resumed
    have ended := partway.collections_eq repeatable unique staged here resumed
    exact ended.trans reached.symm
  · intro outcomes u ended
    obtain ⟨keeps, outcome, done⟩ := migrateAll_single_eq_ok ended
    obtain ⟨⟨parts, staged⟩, reached⟩ :=
      CompiledTemplate.collections_of_migrate repeatable.kind done unique
    -- A run that ended well is one that has come all the way.
    have partway := t.compiled.partway_revised m.collections
    obtain ⟨outcome', v, doneAgain, reachedAgain⟩ :=
      partway.migrate_run repeatable unique staged second reached
    exact ⟨_, v, migrateAll_single_of_ok keeps doneAgain, reachedAgain.trans reached.symm⟩

namespace Sample

def inbox : MemoryStore :=
  .ofCollection "mail" [⟨"m1", []⟩, ⟨"m2", [("flags", .array [])]⟩] ⟨0⟩

/-- Marks the third flag of every mail. -/
def mark : Template :=
  { operation := .update, collection := "mail"
    changes := some [{ path := "seen", operation := .delete },
      { path := "flags.02", operation := .create, value := some (.literal (.bool true)) }] }

/-- The first mail is marked, the second is not. -/
def interruptedInbox : Limited MemoryStore :=
  ⟨⟨[("mail", [⟨"m1", [("flags", .object [("02", .bool true)])]⟩, ⟨"m2", [("flags", .array [])]⟩])],
    1, 1, ⟨0⟩⟩, some 0⟩

theorem repeatable_mark : mark.Repeatable := by
  refine .inr ⟨rfl, ?_, ?_⟩
  · simp [mark, Template.attributes, AttributeTemplate.Constant]
  · simp only [mark, Template.attributes]
    decide

/-- The second run has one mail left to mark, and the first one matches again. -/
theorem migrateAll_rerun_of_mark :
    (migrateAll [mark] 1).run (⟨inbox, some 1⟩ : Limited MemoryStore) =
      (.error (.storeError (.batchRejected "mail" "read-only")), interruptedInbox) ∧
    ∃ outcomes u, (migrateAll [mark] 500).run inbox = (.ok outcomes, u) ∧
      (∃ outcomes' v, (migrateAll [mark] 2).run interruptedInbox.store = (.ok outcomes', v)) ∧
      ∀ allowed outcomes' l',
        (migrateAll [mark] 2).run (⟨interruptedInbox.store, allowed⟩ : Limited MemoryStore) =
          (.ok outcomes', l') →
        l'.store.collections = u.collections := by
  have unique : UniqueIds (inbox.collections.documents mark.collection) := by decide
  have interrupted : (migrateAll [mark] 1).run (⟨inbox, some 1⟩ : Limited MemoryStore) =
    (.error (.storeError (.batchRejected "mail" "read-only")), interruptedInbox) := rfl
  exact ⟨interrupted,
    (migrateAll_rerun repeatable_mark unique 1 2 500).1 _ _ _ interrupted⟩

end Sample

end DocumentMigration
