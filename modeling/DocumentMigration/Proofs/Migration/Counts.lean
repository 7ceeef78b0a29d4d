import DocumentMigration.Proofs.Migration.Agreement
import DocumentMigration.Proofs.Migration.Approval
import DocumentMigration.Proofs.Migration.Creation
import DocumentMigration.Proofs.Migration.Recorded

/-! The counts of a run add up. A run lists what its preview has listed, since no template writes to
a collection that another one reads, and so it hands the writes of the rows to the store, and
nothing else. What keeps the two counts apart are rows that have no write. -/
namespace DocumentMigration

open DocumentMigration.Action

/-- The writes of a batch, each with its collection. -/
def Batch.addressed (b : Batch) : List (String × Write) := b.writes.map (b.collection, ·)

namespace DocumentChange

/-- The writes of a row, each with its collection. -/
def addressed (row : DocumentChange) : List (String × Write) := row.writes.map (row.collection, ·)

/-- A row of an update that leaves no member of its document. Such an update is shown, but it is
not made. -/
def empties (row : DocumentChange) : Bool :=
  row.operation = .update && row.after.any (·.isEmpty)

variable {row : DocumentChange} {kind : Operation} {collection : String} {d : Snapshot}

/-- A row of an update or a delete has one write, which is about its document. -/
theorem Shows.ids_writes (shows : row.Shows kind collection d) (made : kind ≠ .create) :
    row.writes.map Write.id = if row.empties then [] else [row.documentId] := by
  cases kind with
  | create => exact (made rfl).elim
  | update =>
    obtain ⟨after, found⟩ := shows.after rfl
    cases after <;> simp [writes, empties, shows.operation, found, Write.id]
  | delete => simp [writes, empties, shows.operation, Write.id]

end DocumentChange

theorem Batch.flatMap_addressed_chunks (b : Batch) (limit : Nat) :
    (b.chunks limit).flatMap addressed = b.addressed := by
  have own : ∀ chunk ∈ b.chunks limit, chunk.addressed = chunk.writes.map (b.collection, ·) := by
    intro chunk member
    obtain ⟨part, -, rfl⟩ := List.mem_map.mp member
    rfl
  rw [List.flatMap_congr own, ← List.map_flatMap, flatMap_writes_chunks, addressed]

theorem Batch.length_flatMap_addressed (issued : List Batch) :
    (issued.flatMap addressed).length = (issued.map size).sum := by
  rw [List.length_flatMap]
  simp only [addressed, List.length_map]
  rfl

namespace CompiledTemplate

variable {σ : Type} [DocumentStore σ] {t : CompiledTemplate} {cs : Collections}
variable {rows : List DocumentChange} {s s' : σ}

theorem preview_run_of_listed (read : listed t.collection s = .ok (cs.documents t.collection)) :
    (t.preview.run s).1 = t.rowsOf cs := by
  rw [preview, run_bind, accepted_run_of_list (Prod.ext read rfl)]
  rfl

theorem listed_of_preview (shown : t.preview.run s = (.ok rows, s')) :
    ∃ documents, listed t.collection s = .ok documents := by
  obtain ⟨accepted, next, read, -⟩ := run_bind_eq_ok_iff.mp shown
  obtain ⟨documents, _, first, -⟩ := run_bind_eq_ok_iff.mp read
  exact ⟨documents, congrArg Prod.fst (fromStore_run_eq_ok_iff.mp first)⟩

theorem addressed_rowsOf (kind : t.operation ≠ .create) (shown : t.rowsOf cs = .ok rows) :
    rows.flatMap DocumentChange.addressed =
      (rows.flatMap DocumentChange.writes).map (t.collection, ·) := by
  rw [List.map_flatMap]
  refine List.flatMap_congr fun row member => ?_
  obtain ⟨d, -, shows⟩ := shows_of_mem_rowsOf kind shown member
  rw [DocumentChange.addressed, shows.collection]

/-- Batches that are all taken have been counted. -/
theorem written_of_commitAll {batches : List Batch} {outcome outcome' : Outcome}
    (ended : (commitAll batches outcome).run s = (.ok outcome', s')) :
    outcome'.written = outcome.written + (batches.map Batch.size).sum := by
  induction batches generalizing s outcome with
  | nil =>
    cases ended
    rfl
  | cons batch batches ih =>
    obtain ⟨_, next, -, later⟩ := run_bind_eq_ok_iff.mp ended
    rw [ih later, List.map_cons, List.sum_cons, Nat.add_assoc]

/-- A template that ends well has handed over the writes of its rows, and has counted them. -/
theorem migrate_of_rows {limit : Nat} {outcome : Outcome} (kind : t.operation ≠ .create)
    (read : listed t.collection s = .ok (cs.documents t.collection))
    (shown : t.rowsOf cs = .ok rows) (ended : (t.migrate limit).run s = (.ok outcome, s'))
    (before : List Batch) :
    ∃ issued, (t.migrate limit).run (⟨s, before⟩ : Recorded σ) =
        (.ok outcome, ⟨s', before ++ issued⟩) ∧
      outcome.written = (issued.map Batch.size).sum ∧
      issued.flatMap Batch.addressed = rows.flatMap DocumentChange.addressed := by
  have staged : t.staged.run s = _ := staged_run_of_list kind (Prod.ext read rfl)
  have same := staged_eq_rowsOf kind cs
  rw [matching] at same
  rw [same, shown] at staged
  obtain ⟨writes, next, worked, committed⟩ := run_bind_eq_ok_iff.mp ended
  have counted := written_of_commitAll committed
  have own : writes = rows.flatMap DocumentChange.writes := by
    have worked := (Prod.mk.inj (worked.symm.trans staged)).1
    exact Except.ok.inj worked
  refine ⟨_, Recorded.watched_of_migrate worked ended before, ?_, ?_⟩
  · rw [counted]
    exact Nat.zero_add _
  · rw [Batch.flatMap_addressed_chunks, addressed_rowsOf kind shown, own]
    rfl

end CompiledTemplate

section All

variable {σ : Type} [DocumentStore σ] {ts : List CompiledTemplate} {cs : Collections}
variable {parts : List (List DocumentChange)} {rows : List DocumentChange} {s s' : σ}

/-- The collections of some templates, as a store lists them. -/
theorem exists_collections (found : ∀ t ∈ ts, ∃ documents, listed t.collection s = .ok documents)
    (unique : ∀ c documents, listed c s = .ok documents → UniqueIds documents) :
    ∃ cs : Collections, (∀ t ∈ ts, listed t.collection s = .ok (cs.documents t.collection)) ∧
      ∀ c, UniqueIds (cs.documents c) := by
  induction ts with
  | nil => exact ⟨[], nofun, fun _ => List.nodup_nil⟩
  | cons t ts ih =>
    obtain ⟨⟨documents, here⟩, found⟩ := List.forall_mem_cons.mp found
    obtain ⟨cs, reads, distinct⟩ := ih found
    refine ⟨cs.put t.collection documents, fun u member => ?_, fun c => ?_⟩
    · by_cases same : u.collection = t.collection
      · rwa [same, Collections.documents_put_self]
      · have other : u ∈ ts := (List.mem_cons.mp member).resolve_left fun eq => same (eq ▸ rfl)
        rw [Collections.documents_put_of_ne same]
        exact reads u other
    · by_cases same : c = t.collection
      · rw [same, Collections.documents_put_self]
        exact unique _ _ here
      · rw [Collections.documents_put_of_ne same]
        exact distinct c

section Apart

variable (apart : KeepsApart σ)
include apart

theorem Listings.listed_eq (listings : Listings s s') (collection : String) :
    listed collection s' = listed collection s :=
  listings.view_eq (apart.list collection)

/-- Each template of a preview finds its collection as it was before. -/
theorem listed_of_mapM_preview
    (shown : run (ts.mapM CompiledTemplate.preview) s = (.ok parts, s')) :
    ∀ t ∈ ts, ∃ documents, listed t.collection s = .ok documents := by
  induction ts generalizing s parts with
  | nil => nofun
  | cons t ts ih =>
    obtain ⟨rows, rest, next, rfl, first, later⟩ := run_mapM_cons_eq_ok_iff.mp shown
    have listings := t.onlyLists_preview s
    rw [first] at listings
    refine List.forall_mem_cons.mpr ⟨CompiledTemplate.listed_of_preview first, fun u member => ?_⟩
    rw [← listings.listed_eq apart]
    exact ih later u member

theorem rowsOfAll_of_mapM_preview
    (reads : ∀ t ∈ ts, listed t.collection s = .ok (cs.documents t.collection))
    (shown : run (ts.mapM CompiledTemplate.preview) s = (.ok parts, s')) :
    rowsOfAll ts cs = .ok parts := by
  induction ts generalizing s parts with
  | nil =>
    cases shown
    rfl
  | cons t ts ih =>
    obtain ⟨read, reads⟩ := List.forall_mem_cons.mp reads
    obtain ⟨rows, rest, next, rfl, first, later⟩ := run_mapM_cons_eq_ok_iff.mp shown
    have here : t.rowsOf cs = .ok rows := by
      rw [← CompiledTemplate.preview_run_of_listed read, first]
    have listings := t.onlyLists_preview s
    rw [first] at listings
    have there : rowsOfAll ts cs = .ok rest := by
      refine ih (fun u member => ?_) later
      rw [listings.listed_eq apart]
      exact reads u member
    exact Except.mapM_cons_eq_ok_iff.mpr ⟨rows, rest, rfl, here, there⟩

/-- A run that ends well has handed over the writes of all rows, template by template, and has
counted them. -/
theorem mapM_migrate_of_rows {limit : Nat} {outcomes : List Outcome}
    (kinds : ∀ t ∈ ts, t.operation ≠ .create)
    (distinct : ts.Pairwise fun t u => t.collection ≠ u.collection)
    (reads : ∀ t ∈ ts, listed t.collection s = .ok (cs.documents t.collection))
    (shown : rowsOfAll ts cs = .ok parts)
    (ended : run (ts.mapM (CompiledTemplate.migrate · limit)) s = (.ok outcomes, s'))
    (before : List Batch) :
    ∃ issued, run (ts.mapM (CompiledTemplate.migrate · limit)) (⟨s, before⟩ : Recorded σ) =
        (.ok outcomes, ⟨s', before ++ issued⟩) ∧
      (outcomes.map (·.written)).sum = (issued.map Batch.size).sum ∧
      issued.flatMap Batch.addressed = parts.flatten.flatMap DocumentChange.addressed := by
  induction ts generalizing s parts outcomes before with
  | nil =>
    cases shown
    cases ended
    exact ⟨[], by rw [List.append_nil]; rfl, rfl, rfl⟩
  | cons t ts ih =>
    obtain ⟨kind, kinds⟩ := List.forall_mem_cons.mp kinds
    obtain ⟨others, distinct⟩ := List.pairwise_cons.mp distinct
    obtain ⟨read, reads⟩ := List.forall_mem_cons.mp reads
    obtain ⟨rows, rest, rfl, here, there⟩ := Except.mapM_cons_eq_ok_iff.mp shown
    obtain ⟨outcome, later, next, rfl, first, done⟩ := run_mapM_cons_eq_ok_iff.mp ended
    obtain ⟨issued, watched, written, made⟩ :=
      CompiledTemplate.migrate_of_rows kind read here first before
    have still : ∀ u ∈ ts, listed u.collection next = .ok (cs.documents u.collection) := by
      intro u member
      rw [CompiledTemplate.listed_migrate_of_ne apart (others u member).symm first]
      exact reads u member
    obtain ⟨issued', watched', written', made'⟩ :=
      ih kinds distinct still there done (before ++ issued)
    refine ⟨issued ++ issued', ?_, ?_, ?_⟩
    · rw [← List.append_assoc]
      exact run_mapM_cons_eq_ok_iff.mpr ⟨outcome, later, _, rfl, watched, watched'⟩
    · rw [List.map_cons, List.sum_cons, written, written', List.map_append, List.sum_append]
    · rw [List.flatMap_append, made, made', List.flatten_cons, List.flatMap_append]

end Apart

/-- The rows that no write is made of, and the writes, are as many as the rows. -/
theorem length_eq_of_ids_writes (each : ∀ row ∈ rows,
      row.writes.map Write.id = if row.empties then [] else [row.documentId]) :
    rows.length = (rows.flatMap DocumentChange.addressed).length +
      rows.countP DocumentChange.empties := by
  induction rows with
  | nil => rfl
  | cons row rows ih =>
    obtain ⟨here, each⟩ := List.forall_mem_cons.mp each
    have one := congrArg List.length here
    rw [List.length_map] at one
    rw [List.length_cons, ih each, List.flatMap_cons, List.length_append, List.countP_cons,
      DocumentChange.addressed, List.length_map, one]
    cases row.empties <;> simp <;> omega

end All

/-- What was committed for the rows that were shown, and how it was counted. -/
structure MigrationReport.Balances (report : MigrationReport) (rows : List DocumentChange)
    (issued : List Batch) : Prop where
  previewed : report.previewed = rows.length
  distinct : (rows.map fun row => (row.collection, row.documentId)).Nodup
  written : (report.outcomes.map (·.written)).sum = (issued.map Batch.size).sum
  once : ∀ row ∈ rows, row.writes.map Write.id = if row.empties then [] else [row.documentId]
  made : issued.flatMap Batch.addressed = rows.flatMap DocumentChange.addressed
  total : report.previewed =
    (report.outcomes.map (·.written)).sum + rows.countP DocumentChange.empties

/-- Where a run of updates and deletes of different collections has applied them, each document that
was shown has been written once, as shown, and counted as written; but for the documents that an
update would have emptied, which were counted when they were shown and never written. -/
theorem Plan.run_balances {σ : Type} [DocumentStore σ] (apart : KeepsApart σ) (plan : Plan)
    {templates : List Template} (kinds : ∀ t ∈ templates, t.operation ≠ .create)
    (distinct : templates.Pairwise fun t u => t.collection ≠ u.collection)
    (confirm : Nat → Except String Bool) {s : σ}
    (unique : ∀ c documents, listed c s = .ok documents → UniqueIds documents)
    {report : MigrationReport}
    (told : (plan.run (.ofTemplates templates) confirm s).result = .ok report)
    (applied : report.applied = true) :
    ∃ rows s' issued, (previewAll templates).run s = (.ok rows, s') ∧
      (migrateAll templates plan.maxBatchSize).run (⟨s', []⟩ : Recorded σ) =
        (.ok report.outcomes, ⟨(plan.run (.ofTemplates templates) confirm s).store, issued⟩) ∧
      report.Balances rows issued := by
  rcases shown : (Migration.ofTemplates templates).preview.run s with ⟨e | rows, s'⟩
  · rw [run_of_failed shown] at told
    cases told
  obtain ⟨keep, parts, each, rfl⟩ := previewAll_eq_ok shown
  have kinds' : ∀ c ∈ templates.map Template.compiled, c.operation ≠ .create :=
    List.forall_mem_map.mpr kinds
  have distinct' :
      (templates.map Template.compiled).Pairwise fun t u => t.collection ≠ u.collection :=
    List.pairwise_map.mpr distinct
  obtain ⟨cs, reads, uniqueIds⟩ :=
    exists_collections (listed_of_mapM_preview apart each) unique
  have rows := rowsOfAll_of_mapM_preview apart reads each
  have once (row : DocumentChange) (member : row ∈ parts.flatten) :
      row.writes.map Write.id = if row.empties then [] else [row.documentId] := by
    obtain ⟨t, inTemplates, d, -, shows⟩ := shows_of_mem_rowsOfAll kinds' rows member
    exact shows.ids_writes (kinds' t inTemplates)
  -- The run starts where the preview has left the store, from where the listings are the same.
  obtain ⟨previewed, migrated, -⟩ := (ends_of_run shown).1.report told
  have listings : Listings s s' := by
    have lists := onlyLists_previewAll templates s
    rwa [show (previewAll templates).run s = _ from shown] at lists
  have still : ∀ t ∈ templates.map Template.compiled,
      listed t.collection s' = .ok (cs.documents t.collection) := by
    intro t member
    rw [listings.listed_eq apart]
    exact reads t member
  have done : (migrateAll templates plan.maxBatchSize).run s' = _ := (migrated.mp applied).2
  rw [migrateAll_eq keep] at done
  obtain ⟨issued, watched, written, made⟩ :=
    mapM_migrate_of_rows apart kinds' distinct' still rows done []
  refine ⟨_, s', issued, shown, ?_, previewed, nodup_rowsOfAll kinds' distinct' uniqueIds rows,
    written, once, made, ?_⟩
  · rw [migrateAll_eq keep]
    exact watched
  · rw [previewed, length_eq_of_ids_writes once, ← made, Batch.length_flatMap_addressed, written]

namespace Sample

/-- Two notes, of which one has nothing but a text. -/
def notes : MemoryStore :=
  .ofCollection "notes" [⟨"n1", [("text", .string "a")]⟩,
    ⟨"n2", [("by", .string "Ada"), ("text", .string "b")]⟩] ⟨0⟩

def blank : Template :=
  { operation := .update, collection := "notes", changes := some [⟨"text", .delete, none⟩] }

theorem updates_blank : ∀ t ∈ [blank], t.operation ≠ .create := by simp [blank]

/-- Both notes are shown without their texts. -/
def blanked : List DocumentChange :=
  [⟨.update, "n1", "notes", some [("text", .string "a")], some [],
      [⟨"text", .delete, some (.string "a"), none⟩]⟩,
    ⟨.update, "n2", "notes", some [("by", .string "Ada"), ("text", .string "b")],
      some [("by", .string "Ada")], [⟨"text", .delete, some (.string "b"), none⟩]⟩]

def blankReport : MigrationReport := ⟨2, true, [⟨"notes", .update, 1, 1⟩]⟩

theorem run_blank (confirm : Nat → Except String Bool) :
    (({ assumeYes := true } : Plan).run (.ofTemplates [blank]) confirm notes).result =
      .ok blankReport := rfl

theorem unique_notes (c : String) (documents : List Snapshot)
    (read : listed c notes = .ok documents) : UniqueIds documents := by
  have here : notes.collections.documents c = documents := Except.ok.inj read
  subst here
  by_cases same : c = "notes"
  · subst same
    decide
  · have empty : notes.collections.documents c = [] :=
      Collections.documents_cons_of_ne _ (Ne.symm same)
    rw [empty]
    exact List.nodup_nil

/-- Of two notes that are shown, one is written. -/
theorem run_balances_of_blank :
    ∃ issued, blankReport.Balances blanked issued ∧
      issued.flatMap Batch.addressed = [("notes", .update "n2" [("by", .string "Ada")])] := by
  have shown : (previewAll [blank]).run notes = (.ok blanked, { notes with reads := 1 }) := rfl
  obtain ⟨rows, s', issued, same, -, balances⟩ :=
    Plan.run_balances MemoryStore.keepsApart { assumeYes := true } updates_blank
      (List.pairwise_singleton _ _) (fun _ => .ok true) unique_notes (run_blank _) rfl
  cases (Prod.mk.inj (shown.symm.trans same)).1
  exact ⟨issued, balances, balances.made⟩

/-- A note that would be left blank is shown and not written. -/
theorem run_counts_unwritten :
    ¬ ∀ (plan : Plan) (templates : List Template) (confirm : Nat → Except String Bool)
        (s : MemoryStore) (report : MigrationReport),
      (∀ t ∈ templates, t.operation ≠ .create) →
      templates.Pairwise (fun t u => t.collection ≠ u.collection) →
      (∀ c documents, listed c s = .ok documents → UniqueIds documents) →
      (plan.run (.ofTemplates templates) confirm s).result = .ok report →
      report.applied = true →
      report.previewed = (report.outcomes.map (·.written)).sum := by
  intro claimed
  have equal := claimed { assumeYes := true } [blank] (fun _ => .ok true) notes blankReport
    updates_blank (List.pairwise_singleton _ _) unique_notes (run_blank _) rfl
  contradiction

end Sample

end DocumentMigration
