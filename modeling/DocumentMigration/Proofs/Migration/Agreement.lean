import DocumentMigration.Migration.Execute
import DocumentMigration.Proofs.Migration.Revise

/-! A preview foretells the run. Its rows are worked out from the collections as they are, and the
run, which reads each collection again, finds it untouched by the templates before. For the same
reason the run breaks off where the preview does. -/
namespace DocumentMigration

open DocumentMigration.Action

/-- What a row says becomes of its document. -/
def DocumentChange.leaves (row : DocumentChange) (d : Snapshot) : Option Snapshot :=
  match row.operation, row.after with
  | .delete, _ => none
  | .update, some after => if after.isEmpty then some d else some ⟨d.id, after⟩
  | _, _ => some d

/-- The first row that is about a document. -/
def rowAbout (rows : List DocumentChange) (collection id : String) : Option DocumentChange :=
  rows.find? fun row => row.collection = collection ∧ row.documentId = id

/-- What rows say becomes of a document of a collection. If none is about it, it stays. -/
def foretold (rows : List DocumentChange) (collection : String) (d : Snapshot) : Option Snapshot :=
  match rowAbout rows collection d.id with
  | some row => row.leaves d
  | none => some d

/-- A row shows a document of an update or a delete. -/
structure DocumentChange.Shows (row : DocumentChange) (kind : Operation) (name : String)
    (d : Snapshot) : Prop where
  operation : row.operation = kind
  collection : row.collection = name
  documentId : row.documentId = d.id
  before : row.before = some d.data
  after : kind = .update → ∃ after, row.after = some after

section Foretold

variable {rows rest : List DocumentChange} {row : DocumentChange} {collection id : String}
variable {d : Snapshot}

theorem rowAbout_append :
    rowAbout (rows ++ rest) collection id =
      (rowAbout rows collection id).or (rowAbout rest collection id) :=
  List.find?_append

theorem rowAbout_eq_none
    (absent : ∀ row ∈ rows, row.collection = collection → row.documentId ≠ id) :
    rowAbout rows collection id = none := by
  simpa [rowAbout] using absent

theorem rowAbout_eq_none_of_collection (absent : ∀ row ∈ rows, row.collection ≠ collection) :
    rowAbout rows collection id = none :=
  rowAbout_eq_none fun row member same => (absent row member same).elim

theorem rowAbout_eq_some (distinct : (rows.map (·.documentId)).Nodup) (member : row ∈ rows) :
    rowAbout rows row.collection row.documentId = some row := by
  cases search : rowAbout rows row.collection row.documentId with
  | none =>
    have missed := List.find?_eq_none.mp search row member
    simp at missed
  | some other =>
    have named := List.find?_some search
    simp only [decide_eq_true_eq] at named
    have inside := List.mem_of_find?_eq_some search
    rw [List.inj_on_of_nodup_map distinct inside member named.2]

theorem foretold_of_rowAbout (found : rowAbout rows collection d.id = some row) :
    foretold rows collection d = row.leaves d := by
  simp only [foretold, found]

theorem foretold_of_no_row (absent : rowAbout rows collection d.id = none) :
    foretold rows collection d = some d := by
  simp only [foretold, absent]

theorem foretold_append_of_no_right (absent : ∀ row ∈ rest, row.collection ≠ collection) :
    foretold (rows ++ rest) collection d = foretold rows collection d := by
  rw [foretold, foretold, rowAbout_append, rowAbout_eq_none_of_collection absent, Option.or_none]

theorem foretold_append_of_no_left (absent : ∀ row ∈ rows, row.collection ≠ collection) :
    foretold (rows ++ rest) collection d = foretold rest collection d := by
  rw [foretold, foretold, rowAbout_append, rowAbout_eq_none_of_collection absent, Option.none_or]

end Foretold

/-- The writes that carry out a row. -/
def DocumentChange.writes (row : DocumentChange) : List Write :=
  match row.operation, row.after with
  | .delete, _ => [.delete row.documentId]
  | .update, some after => if after.isEmpty then [] else [.update row.documentId after]
  | _, _ => []

theorem DocumentChange.settle_writes {row : DocumentChange} {d : Snapshot}
    (about : row.documentId = d.id) : settle row.writes d = row.leaves d := by
  have here : ∀ w : Write, w.id = row.documentId → settle [w] d = w.result d := fun w named =>
    settle_cons_of_eq (named.trans about)
  unfold writes leaves
  split
  · exact here (.delete row.documentId) rfl
  · split
    · rfl
    · exact here (.update row.documentId _) rfl
  · rfl

namespace CompiledTemplate

variable {t : CompiledTemplate} {d : Snapshot} {row : DocumentChange} {rows : List DocumentChange}
variable {cs : Collections}

/-- The two passes come from one transformation of the document. -/
theorem stageOne_eq_previewOne (kind : t.operation ≠ .create) (d : Snapshot) :
    t.stageOne d = (t.previewOne d).map DocumentChange.writes := by
  unfold stageOne previewOne
  cases operation : t.operation with
  | create => exact (kind operation).elim
  | delete => rfl
  | update =>
    cases t.transform d.data with
    | error e => rfl
    | ok made => rfl

theorem shows_of_previewOne (kind : t.operation ≠ .create) (shown : t.previewOne d = .ok row) :
    row.Shows t.operation t.collection d := by
  cases operation : t.operation with
  | create => exact (kind operation).elim
  | delete =>
    simp only [previewOne, operation, Except.ok.injEq] at shown
    subst shown
    exact ⟨rfl, rfl, rfl, rfl, by simp⟩
  | update =>
    obtain ⟨changes, after, _, rfl⟩ := (previewOne_update_eq_ok_iff operation).mp shown
    exact ⟨rfl, rfl, rfl, rfl, fun _ => ⟨after, rfl⟩⟩

/-- The rows of a template, worked out from some collections. -/
def rowsOf (t : CompiledTemplate) (cs : Collections) :
    Except MigrationError (List DocumentChange) :=
  (t.matching cs).mapM t.previewOne

theorem staged_eq_rowsOf (kind : t.operation ≠ .create) (cs : Collections) :
    (t.matching cs).mapM t.stageOne = (t.rowsOf cs).map (List.map DocumentChange.writes) := by
  rw [funext (stageOne_eq_previewOne kind)]
  exact Except.mapM_map t.previewOne DocumentChange.writes (t.matching cs)

theorem shows_of_mem_rowsOf (kind : t.operation ≠ .create) (shown : t.rowsOf cs = .ok rows)
    (member : row ∈ rows) :
    ∃ d ∈ t.matching cs, row.Shows t.operation t.collection d := by
  obtain ⟨d, matching, shown⟩ := Except.exists_of_mem_mapM shown member
  exact ⟨d, matching, shows_of_previewOne kind shown⟩

theorem documentIds_rowsOf (kind : t.operation ≠ .create) (shown : t.rowsOf cs = .ok rows) :
    rows.map (·.documentId) = (t.matching cs).map (·.id) := by
  have each := Except.mapM_eq_ok_iff.mp shown
  clear shown
  generalize t.matching cs = documents at each
  induction each with
  | nil => rfl
  | cons first _ ih => simp [(shows_of_previewOne kind first).documentId, ih]

theorem revised_eq_foretold (kind : t.operation ≠ .create)
    (unique : UniqueIds (cs.documents t.collection)) (shown : t.rowsOf cs = .ok rows)
    (member : d ∈ cs.documents t.collection) :
    t.revised d = foretold rows t.collection d := by
  by_cases accepts : t.accepts d.data
  · have matching : d ∈ t.matching cs := List.mem_filter.mpr ⟨member, accepts⟩
    obtain ⟨row, inRows, shownHere⟩ := Except.exists_mem_of_mapM shown matching
    have shows := shows_of_previewOne kind shownHere
    have staged : t.stageOne d = .ok row.writes := by
      rw [stageOne_eq_previewOne kind, shownHere]
      rfl
    have distinct : (rows.map (·.documentId)).Nodup := by
      rw [documentIds_rowsOf kind shown]
      exact unique.sublist (List.filter_sublist.map _)
    have found := rowAbout_eq_some distinct inRows
    rw [shows.collection, shows.documentId] at found
    rw [revised_of_accepts accepts staged, row.settle_writes shows.documentId,
      foretold_of_rowAbout found]
  · rw [revised_of_not_accepts accepts]
    refine (foretold_of_no_row (rowAbout_eq_none fun row inRows _ same => accepts ?_)).symm
    obtain ⟨e, matching, shows⟩ := shows_of_mem_rowsOf kind shown inRows
    obtain ⟨inside, accepted⟩ := List.mem_filter.mp matching
    have same : e.id = d.id := shows.documentId.symm.trans same
    rwa [List.inj_on_of_nodup_map unique inside member same] at accepted

/-- The rows of a template foretell what it makes of its collection, and leave the others to the
rows of other templates. -/
theorem filterMap_foretold_append {rest : List DocumentChange} (kind : t.operation ≠ .create)
    (unique : UniqueIds (cs.documents t.collection)) (shown : t.rowsOf cs = .ok rows)
    (others : ∀ row ∈ rest, row.collection ≠ t.collection) (c : String) :
    ((cs.revise t.collection t.revised).documents c).filterMap (foretold rest c) =
      (cs.documents c).filterMap (foretold (rows ++ rest) c) := by
  by_cases same : c = t.collection
  · subst same
    rw [Collections.documents_revise_self, List.filterMap_filterMap]
    refine List.filterMap_congr fun d member => ?_
    rw [foretold_append_of_no_right others, ← revised_eq_foretold kind unique shown member]
    cases t.revised d with
    | none => rfl
    | some d' => exact foretold_of_no_row (rowAbout_eq_none_of_collection others)
  · have elsewhere : ∀ row ∈ rows, row.collection ≠ c := by
      intro row member here
      obtain ⟨d, _, shows⟩ := shows_of_mem_rowsOf kind shown member
      exact same (here.symm.trans shows.collection)
    rw [Collections.documents_revise_of_ne _ same]
    exact List.filterMap_congr fun d _ => (foretold_append_of_no_left elsewhere).symm

end CompiledTemplate

section All

variable {ts : List CompiledTemplate} {rows : List DocumentChange} {limit : Nat}
variable {s s' : MemoryStore} {e : MigrationError}

/-- The rows of several templates, all worked out from the same collections. -/
def rowsOfAll (ts : List CompiledTemplate) (cs : Collections) :
    Except MigrationError (List (List DocumentChange)) :=
  ts.mapM fun t => t.rowsOf cs

theorem mapM_preview_run (ts : List CompiledTemplate) (s : MemoryStore) :
    ∃ s', (ts.mapM fun t => t.preview : Action MemoryStore MigrationError _).run s =
      (rowsOfAll ts s.collections, s') := by
  induction ts generalizing s with
  | nil => exact ⟨s, rfl⟩
  | cons t ts ih =>
    obtain ⟨s', later⟩ := ih { s with reads := s.reads + 1 }
    have first : t.preview.run s = (t.rowsOf s.collections, { s with reads := s.reads + 1 }) := rfl
    rw [List.mapM_cons, run_bind, first, rowsOfAll, List.mapM_cons]
    cases t.rowsOf s.collections with
    | error e => exact ⟨_, rfl⟩
    | ok rows =>
      refine ⟨s', ?_⟩
      show Action.run ((ts.mapM fun t => t.preview) >>= fun rest => pure (rows :: rest) :
        Action MemoryStore MigrationError (List (List DocumentChange))) _ = _
      rw [run_bind, later, rowsOfAll]
      show _ = (Except.bind (ts.mapM fun t => t.rowsOf s.collections)
        (fun rest => pure (rows :: rest)), s')
      cases ts.mapM fun t : CompiledTemplate => t.rowsOf s.collections <;> rfl

theorem matching_revise {t u : CompiledTemplate} (cs : Collections)
    (other : t.collection ≠ u.collection) :
    u.matching (cs.revise t.collection t.revised) = u.matching cs := by
  rw [CompiledTemplate.matching, CompiledTemplate.matching,
    cs.documents_revise_of_ne t.revised (Ne.symm other)]

/-- Revising a collection does not show to templates of other collections. -/
theorem rowsOfAll_revise {t : CompiledTemplate} {cs : Collections}
    (others : ∀ u ∈ ts, t.collection ≠ u.collection) :
    rowsOfAll ts (cs.revise t.collection t.revised) = rowsOfAll ts cs := by
  induction ts with
  | nil => rfl
  | cons u ts ih =>
    obtain ⟨other, others⟩ := List.forall_mem_cons.mp others
    have first : u.rowsOf (cs.revise t.collection t.revised) = u.rowsOf cs := by
      rw [CompiledTemplate.rowsOf, CompiledTemplate.rowsOf, matching_revise cs other]
    have later := ih others
    rw [rowsOfAll, rowsOfAll] at later ⊢
    rw [List.mapM_cons, List.mapM_cons, first, later]

theorem shows_of_mem_rowsOfAll {cs : Collections} {rowss : List (List DocumentChange)}
    (kinds : ∀ t ∈ ts, t.operation ≠ .create) (shown : rowsOfAll ts cs = .ok rowss)
    {row : DocumentChange} (member : row ∈ rowss.flatten) :
    ∃ t ∈ ts, ∃ d ∈ t.matching cs, row.Shows t.operation t.collection d := by
  obtain ⟨rows, inside, member⟩ := List.mem_flatten.mp member
  obtain ⟨t, inTemplates, shown⟩ := Except.exists_of_mem_mapM shown inside
  exact ⟨t, inTemplates, CompiledTemplate.shows_of_mem_rowsOf (kinds t inTemplates) shown member⟩

/-- No two rows are about the same document. -/
theorem nodup_rowsOfAll {cs : Collections} {rowss : List (List DocumentChange)}
    (kinds : ∀ t ∈ ts, t.operation ≠ .create)
    (distinct : ts.Pairwise fun t u => t.collection ≠ u.collection)
    (unique : ∀ c, UniqueIds (cs.documents c)) (shown : rowsOfAll ts cs = .ok rowss) :
    (rowss.flatten.map fun row => (row.collection, row.documentId)).Nodup := by
  induction ts generalizing rowss with
  | nil =>
    cases shown
    exact List.nodup_nil
  | cons t ts ih =>
    obtain ⟨rows, rest, rfl, first, later⟩ := Except.mapM_cons_eq_ok_iff.mp shown
    obtain ⟨kind, kinds⟩ := List.forall_mem_cons.mp kinds
    obtain ⟨others, distinct⟩ := List.pairwise_cons.mp distinct
    have ids : (rows.map (·.documentId)).Nodup := by
      rw [CompiledTemplate.documentIds_rowsOf kind first]
      exact (unique t.collection).sublist (List.filter_sublist.map _)
    rw [List.flatten_cons, List.map_append, List.nodup_append]
    refine ⟨?_, ih kinds distinct later, ?_⟩
    · refine List.Nodup.of_map Prod.snd ?_
      rwa [List.map_map]
    · intro a left b right same
      obtain ⟨row, inRows, rfl⟩ := List.mem_map.mp left
      obtain ⟨other, inRest, rfl⟩ := List.mem_map.mp right
      obtain ⟨d, _, shows⟩ := CompiledTemplate.shows_of_mem_rowsOf kind first inRows
      obtain ⟨u, member, e, _, showsOther⟩ := shows_of_mem_rowsOfAll kinds later inRest
      rw [shows.collection, showsOther.collection] at same
      exact others u member (Prod.mk.inj same).1

/-- Applying a template that has rows leaves the rows of the templates after it as they are. -/
theorem migrate_of_rowsOf {t : CompiledTemplate} {rows : List DocumentChange} (limit : Nat)
    (kind : t.operation ≠ .create) (others : ∀ u ∈ ts, t.collection ≠ u.collection)
    (unique : ∀ c, UniqueIds (s.collections.documents c))
    (shown : t.rowsOf s.collections = .ok rows) :
    ∃ outcome next, (t.migrate limit).run s = (.ok outcome, next) ∧
      next.collections = s.collections.revise t.collection t.revised ∧
      (∀ c, UniqueIds (next.collections.documents c)) ∧
      rowsOfAll ts next.collections = rowsOfAll ts s.collections := by
  have staged := CompiledTemplate.staged_eq_rowsOf kind s.collections
  rw [shown] at staged
  obtain ⟨outcome, next, migrated, revised⟩ :=
    CompiledTemplate.migrate_run_of_staged limit kind (unique t.collection) staged
  refine ⟨outcome, next, migrated, revised, ?_, ?_⟩
  · rw [revised]
    exact t.unique_revise unique
  · rw [revised]
    exact rowsOfAll_revise others

theorem mapM_migrate_of_shown {rowss : List (List DocumentChange)} (limit : Nat)
    (kinds : ∀ t ∈ ts, t.operation ≠ .create)
    (distinct : ts.Pairwise fun t u => t.collection ≠ u.collection)
    (unique : ∀ c, UniqueIds (s.collections.documents c))
    (shown : rowsOfAll ts s.collections = .ok rowss) :
    ∃ outcomes s', (ts.mapM fun t => t.migrate limit : Action MemoryStore _ _).run s =
        (.ok outcomes, s') ∧
      ∀ c, s'.collections.documents c =
        (s.collections.documents c).filterMap (foretold rowss.flatten c) := by
  induction ts generalizing s rowss with
  | nil =>
    cases shown
    exact ⟨[], s, rfl, fun c => List.filterMap_some.symm⟩
  | cons t ts ih =>
    obtain ⟨rows, rest, rfl, first, later⟩ := Except.mapM_cons_eq_ok_iff.mp shown
    obtain ⟨kind, kinds⟩ := List.forall_mem_cons.mp kinds
    obtain ⟨others, distinct⟩ := List.pairwise_cons.mp distinct
    -- The later templates read other collections, so their rows hold of the next state as well.
    obtain ⟨outcome, next, migrated, revised, uniqueNext, sameRows⟩ :=
      migrate_of_rowsOf limit kind others unique first
    obtain ⟨outcomes, s', done, reached⟩ := ih kinds distinct uniqueNext (sameRows.trans later)
    have elsewhere : ∀ row ∈ rest.flatten, row.collection ≠ t.collection := by
      intro row member same
      obtain ⟨u, inTemplates, d, _, shows⟩ := shows_of_mem_rowsOfAll kinds later member
      exact others u inTemplates (same.symm.trans shows.collection)
    refine ⟨outcome :: outcomes, s',
      run_mapM_cons_eq_ok_iff.mpr ⟨outcome, outcomes, next, rfl, migrated, done⟩, fun c => ?_⟩
    rw [reached c, revised, List.flatten_cons]
    exact CompiledTemplate.filterMap_foretold_append kind (unique t.collection) first elsewhere c

/-- The run fails at the template that has no rows; those before it are applied by then. -/
theorem mapM_migrate_of_failed (limit : Nat) (kinds : ∀ t ∈ ts, t.operation ≠ .create)
    (distinct : ts.Pairwise fun t u => t.collection ≠ u.collection)
    (unique : ∀ c, UniqueIds (s.collections.documents c))
    (failed : rowsOfAll ts s.collections = .error e) :
    ∃ s', (ts.mapM fun t => t.migrate limit : Action MemoryStore _ _).run s = (.error e, s') := by
  induction ts generalizing s with
  | nil => cases failed
  | cons t ts ih =>
    obtain ⟨kind, kinds⟩ := List.forall_mem_cons.mp kinds
    obtain ⟨others, distinct⟩ := List.pairwise_cons.mp distinct
    rcases Except.mapM_cons_eq_error_iff.mp failed with here | ⟨rows, first, later⟩
    · have staged := CompiledTemplate.staged_eq_rowsOf kind s.collections
      rw [here] at staged
      obtain ⟨s', stopped⟩ := CompiledTemplate.migrate_run_of_failed limit kind staged
      exact ⟨s', run_mapM_cons_eq_error_iff.mpr (.inl stopped)⟩
    · obtain ⟨outcome, next, migrated, _, uniqueNext, sameRows⟩ :=
        migrate_of_rowsOf limit kind others unique first
      obtain ⟨s', stopped⟩ := ih kinds distinct uniqueNext (sameRows.trans later)
      exact ⟨s', run_mapM_cons_eq_error_iff.mpr (.inr ⟨outcome, next, migrated, stopped⟩)⟩

end All

section Broken

variable {ts : List CompiledTemplate} {capacity : Change.Capacity} {s : MemoryStore}

/-- Whether one of some templates breaks off when all work on the same collections. -/
def breaksOffIn (capacity : Change.Capacity) (cs : Collections) : List CompiledTemplate → Bool
  | [] => false
  | t :: rest =>
    t.breaksOffAmong capacity (t.matching cs) ||
      ((t.rowsOf cs).isOk && breaksOffIn capacity cs rest)

theorem breaksOffIn_revise {t : CompiledTemplate} {cs : Collections}
    (others : ∀ u ∈ ts, t.collection ≠ u.collection) :
    breaksOffIn capacity (cs.revise t.collection t.revised) ts = breaksOffIn capacity cs ts := by
  induction ts with
  | nil => rfl
  | cons u ts ih =>
    obtain ⟨other, others⟩ := List.forall_mem_cons.mp others
    rw [breaksOffIn, breaksOffIn, CompiledTemplate.rowsOf, CompiledTemplate.rowsOf,
      matching_revise cs other, ih others]

theorem previewAlong_breaksOff (ts : List CompiledTemplate) (s : MemoryStore) :
    breaksOffAlong (·.preview) (·.previewBreaksOff capacity) ts s =
      breaksOffIn capacity s.collections ts := by
  induction ts generalizing s with
  | nil => rfl
  | cons t ts ih =>
    have here : t.previewBreaksOff capacity s =
        t.breaksOffAmong capacity (t.matching s.collections) := rfl
    have first : t.preview.run s = (t.rowsOf s.collections, { s with reads := s.reads + 1 }) := rfl
    rw [breaksOffAlong, breaksOffIn, here, first]
    cases t.rowsOf s.collections with
    | error e => rfl
    | ok rows => exact congrArg _ (ih { s with reads := s.reads + 1 })

theorem migrateAlong_breaksOff (limit : Nat) (kinds : ∀ t ∈ ts, t.operation ≠ .create)
    (distinct : ts.Pairwise fun t u => t.collection ≠ u.collection)
    (unique : ∀ c, UniqueIds (s.collections.documents c)) :
    breaksOffAlong (·.migrate limit) (·.migrateBreaksOff capacity) ts s =
      breaksOffIn capacity s.collections ts := by
  induction ts generalizing s with
  | nil => rfl
  | cons t ts ih =>
    obtain ⟨kind, kinds⟩ := List.forall_mem_cons.mp kinds
    obtain ⟨others, distinct⟩ := List.pairwise_cons.mp distinct
    have here : t.migrateBreaksOff capacity s =
        t.breaksOffAmong capacity (t.matching s.collections) := by
      rw [CompiledTemplate.migrateBreaksOff]
      split
      · contradiction
      · rfl
    rw [breaksOffAlong, breaksOffIn, here]
    congr 1
    cases shown : t.rowsOf s.collections with
    | error e =>
      have staged := CompiledTemplate.staged_eq_rowsOf kind s.collections
      rw [shown] at staged
      obtain ⟨s', stopped⟩ := CompiledTemplate.migrate_run_of_failed limit kind staged
      rw [stopped]
      rfl
    | ok rows =>
      obtain ⟨outcome, next, migrated, revised, uniqueNext, -⟩ :=
        migrate_of_rowsOf limit kind others unique shown
      rw [migrated]
      show breaksOffAlong _ _ ts next = _
      rw [ih kinds distinct uniqueNext, revised, breaksOffIn_revise others]
      rfl

/-- A run breaks off just where its preview does. -/
theorem migrateAllBreaksOff_eq {templates : List Template} (capacity : Change.Capacity)
    (limit : Nat) (unique : ∀ c, UniqueIds (s.collections.documents c))
    (kinds : ∀ t ∈ templates, t.operation ≠ .create)
    (distinct : templates.Pairwise fun t u => t.collection ≠ u.collection) :
    migrateAllBreaksOff capacity templates limit s = previewAllBreaksOff capacity templates s := by
  rw [migrateAllBreaksOff, previewAllBreaksOff]
  cases compiled : Template.compileAll templates with
  | error e => rfl
  | ok cs =>
    obtain ⟨-, rfl⟩ := Template.compileAll_eq_ok_iff.mp compiled
    show breaksOffAlong _ _ _ s = breaksOffAlong _ _ _ s
    rw [previewAlong_breaksOff]
    exact migrateAlong_breaksOff limit (List.forall_mem_map.mpr kinds)
      (List.pairwise_map.mpr distinct) unique

end Broken

section Preview

variable {templates : List Template} {rows : List DocumentChange} {s s' : MemoryStore}
variable {e : MigrationError}

theorem previewAll_run_eq_ok (shown : (previewAll templates).run s = (.ok rows, s')) :
    (∀ t ∈ templates, t.KeepsContract) ∧ ∃ rowss,
      rowsOfAll (templates.map Template.compiled) s.collections = .ok rowss ∧
        rows = rowss.flatten := by
  obtain ⟨keep, rowss, each, flat⟩ := previewAll_eq_ok shown
  obtain ⟨read, previewed⟩ := mapM_preview_run (templates.map Template.compiled) s
  rw [previewed, Prod.mk.injEq] at each
  exact ⟨keep, rowss, each.1, flat⟩

theorem previewAll_run_eq_error (failed : (previewAll templates).run s = (.error e, s')) :
    Template.compileAll templates = .error e ∨ (∀ t ∈ templates, t.KeepsContract) ∧
      rowsOfAll (templates.map Template.compiled) s.collections = .error e := by
  cases compiled : Template.compileAll templates with
  | error e' =>
    rw [previewAll, run_bind, run_mk_pure, compiled, Prod.mk.injEq, Except.error.injEq] at failed
    rw [failed.1]
    exact .inl rfl
  | ok cs =>
    have keep := (Template.compileAll_eq_ok_iff.mp compiled).1
    obtain ⟨read, previewed⟩ := mapM_preview_run (templates.map Template.compiled) s
    rw [previewAll_eq keep, run_bind_eq_error_iff] at failed
    rcases failed with failed | ⟨_, _, _, impossible⟩
    · rw [previewed, Prod.mk.injEq] at failed
      exact .inr ⟨keep, failed.1⟩
    · cases impossible

end Preview

/-- Updates and deletes of different collections do what their preview shows, or fail with its
error, or break off where it does. -/
theorem migrateAll_agrees {templates : List Template} (limit : Nat) {s : MemoryStore}
    (unique : ∀ c, UniqueIds (s.collections.documents c))
    (kinds : ∀ t ∈ templates, t.operation ≠ .create)
    (distinct : templates.Pairwise fun t u => t.collection ≠ u.collection) :
    (∀ rows s₁, (previewAll templates).run s = (.ok rows, s₁) →
      ∃ outcomes s₂, (migrateAll templates limit).run s = (.ok outcomes, s₂) ∧
        (∀ row ∈ rows, ∃ t ∈ templates, ∃ d ∈ t.compiled.matching s.collections,
          row.Shows t.operation t.collection d) ∧
        (rows.map fun row => (row.collection, row.documentId)).Nodup ∧
        (∀ c, s₂.collections.documents c =
          (s.collections.documents c).filterMap (foretold rows c)) ∧
        ∀ c, (∀ t ∈ templates, t.collection ≠ c) →
          s₂.collections.documents c = s.collections.documents c) ∧
    (∀ e s₁, (previewAll templates).run s = (.error e, s₁) →
      ∃ s₂, (migrateAll templates limit).run s = (.error e, s₂)) ∧
    ∀ capacity, migrateAllBreaksOff capacity templates limit s =
      previewAllBreaksOff capacity templates s := by
  have kinds' : ∀ c ∈ templates.map Template.compiled, c.operation ≠ .create :=
    List.forall_mem_map.mpr kinds
  have distinct' :
      (templates.map Template.compiled).Pairwise fun t u => t.collection ≠ u.collection :=
    List.pairwise_map.mpr distinct
  refine ⟨?_, ?_, fun capacity => migrateAllBreaksOff_eq capacity limit unique kinds distinct⟩
  · intro rows s₁ shown
    obtain ⟨keep, rowss, each, rfl⟩ := previewAll_run_eq_ok shown
    obtain ⟨outcomes, s₂, done, reached⟩ :=
      mapM_migrate_of_shown limit kinds' distinct' unique each
    rw [← migrateAll_eq keep] at done
    have shows : ∀ row ∈ rowss.flatten, ∃ t ∈ templates,
        ∃ d ∈ t.compiled.matching s.collections, row.Shows t.operation t.collection d := by
      intro row member
      obtain ⟨c, inside, found⟩ := shows_of_mem_rowsOfAll kinds' each member
      obtain ⟨t, inTemplates, rfl⟩ := List.mem_map.mp inside
      exact ⟨t, inTemplates, found⟩
    refine ⟨outcomes, s₂, done, shows, nodup_rowsOfAll kinds' distinct' unique each, reached, ?_⟩
    intro c outside
    have stay : ∀ d ∈ s.collections.documents c, foretold rowss.flatten c d = some d := by
      refine fun d _ => foretold_of_no_row (rowAbout_eq_none_of_collection ?_)
      intro row member here
      obtain ⟨t, inTemplates, e, _, about⟩ := shows row member
      exact outside t inTemplates (about.collection.symm.trans here)
    rw [reached c, List.filterMap_congr stay, List.filterMap_some]
  · intro e s₁ failed
    rcases previewAll_run_eq_error failed with broken | ⟨keep, failed⟩
    · exact ⟨s, migrateAll_run_of_broken broken limit s⟩
    · rw [migrateAll_eq keep]
      exact mapM_migrate_of_failed limit kinds' distinct' unique failed

namespace Sample

def blog : MemoryStore :=
  { collections := [("posts", [⟨"p1", [("draft", .bool true)]⟩, ⟨"p2", []⟩]),
      ("notes", [⟨"n1", []⟩])] }

def publish : Template :=
  { operation := .update, collection := "posts", filter := some fun data => !data.isEmpty
    changes := some [{ path := "draft", operation := .update, value := some (.literal .null) }] }

def forget : Template := { operation := .delete, collection := "notes" }

def blogRows : List DocumentChange :=
  [{ operation := .update, documentId := "p1", collection := "posts"
     before := some [("draft", .bool true)], after := some [("draft", .null)]
     changes := [⟨"draft", .update, some (.bool true), some .null⟩] },
   { operation := .delete, documentId := "n1", collection := "notes", before := some [] }]

theorem unique_blog (c : String) : UniqueIds (blog.collections.documents c) := by
  by_cases posts : c = "posts"
  · subst posts
    decide
  · by_cases notes : c = "notes"
    · subst notes
      decide
    · have missing : blog.collections.documents c = [] := by
        rw [blog, Collections.documents_cons_of_ne _ (Ne.symm posts),
          Collections.documents_cons_of_ne _ (Ne.symm notes)]
        rfl
      rw [missing]
      exact List.nodup_nil

/-- One post is published and the note is gone. -/
theorem migrateAll_agrees_on_blog :
    ∃ outcomes s₂, (migrateAll [publish, forget] 1).run blog = (.ok outcomes, s₂) ∧
      ∀ c, s₂.collections.documents c =
        (blog.collections.documents c).filterMap (foretold blogRows c) := by
  have kinds : ∀ t ∈ [publish, forget], t.operation ≠ .create := by
    simp [publish, forget]
  have distinct : [publish, forget].Pairwise fun t u => t.collection ≠ u.collection := by
    simp [publish, forget]
  have shown : (previewAll [publish, forget]).run blog =
    (.ok blogRows, { blog with reads := 2 }) := rfl
  obtain ⟨outcomes, s₂, done, _, _, reached, _⟩ :=
    (migrateAll_agrees 1 unique_blog kinds distinct).1 _ _ shown
  exact ⟨outcomes, s₂, done, reached⟩

end Sample

end DocumentMigration
