import DocumentMigration.Proofs.Migration.BatchSize
import DocumentMigration.Proofs.Migration.Creation
import DocumentMigration.Proofs.Store.Readback

/-! Templates on a table. What a run commits can be read back, previewed and migrated once more, as
long as no body of the collection has become too deep. -/
namespace DocumentMigration

open Json DocumentMigration.Action

namespace CompiledTemplate

variable {t : CompiledTemplate} {documents : List Snapshot}

section Table

open TableStore

variable {batches : List Batch} {s s' next : TableStore} {ws : List Write}

theorem reached_of_commitAll [FloatReader] {issued : List Batch} {outcome outcome' : Outcome}
    (reached : Reached batches s) (canonical : ∀ batch ∈ issued, batch.Canonical)
    (ended : (commitAll issued outcome).run s = (.ok outcome', s')) :
    Reached (batches ++ issued) s' := by
  induction issued generalizing batches s outcome with
  | nil =>
    rw [commitAll, run_pure, Prod.mk.injEq] at ended
    rwa [List.append_nil, ← ended.2]
  | cons batch issued ih =>
    obtain ⟨first, later⟩ := List.forall_mem_cons.mp canonical
    rw [commitAll] at ended
    obtain ⟨_, between, taken, rest⟩ := run_bind_eq_ok_iff.mp ended
    have after := reached.commit first (fromStore_run_eq_ok_iff.mp taken)
    have done := ih after later rest
    rwa [List.append_assoc, List.singleton_append] at done

/-- What a template may write to a table: ordered bodies, and new ids that a column keeps whole. -/
structure Proper (w : Write) : Prop where
  canonical : ∀ data ∈ w.body?, (Value.object data).Canonical
  plain : ∀ id data, w = .set id data → '\x00' ∉ id.toList

theorem proper_of_stageOne {d : Snapshot} {part : List Write} (writes : t.WritesCanonical)
    (canonical : (Value.object d.data).Canonical) (made : t.stageOne d = .ok part) :
    ∀ w ∈ part, Proper w := by
  intro w member
  by_cases update : t.operation = .update
  · obtain ⟨changes, after, transformed, rfl⟩ := (stageOne_update_eq_ok_iff update).mp made
    split at member
    · cases member
    · rw [List.mem_singleton.mp member]
      refine ⟨fun data body => ?_, nofun⟩
      cases body
      exact canonical_transform writes canonical transformed
  · cases (stageOne_of_not_update update d).symm.trans made
    rw [List.mem_singleton.mp member]
    exact ⟨nofun, nofun⟩

theorem staged_in_table [FloatReader] (writes : t.WritesCanonical) (reached : Reached batches s)
    (ended : t.staged.run s = (.ok ws, next)) :
    Reached batches next ∧ ∀ w ∈ ws, Proper w := by
  by_cases kind : t.operation = .create
  · unfold staged at ended
    rw [kind] at ended
    obtain ⟨data, between, made, rest⟩ := run_bind_eq_ok_iff.mp ended
    rw [run_mk_pure, Prod.mk.injEq] at made
    obtain ⟨made, rfl⟩ := made
    obtain ⟨id, after, allocated, last⟩ := run_bind_eq_ok_iff.mp rest
    have allocated := fromStore_run_eq_ok_iff.mp allocated
    rw [run_pure, Prod.mk.injEq, Except.ok.injEq] at last
    obtain ⟨rfl, rfl⟩ := last
    refine ⟨reached.allocate allocated, ?_⟩
    intro w member
    rw [List.mem_singleton.mp member]
    rw [allocate_run] at allocated
    cases allocated
    refine ⟨fun _ body => ?_, fun _ _ same => ?_⟩
    · cases body
      exact canonical_newDocument writes made
    · cases same
      exact s.ids.null_not_mem_draw _
  · obtain ⟨documents, keeping⟩ := reached.keeping t.collection
    have listing := keeping.list_run
    cases read : TableStore.listing t.collection documents with
    | ok listed =>
      rw [read] at listing
      rw [staged_run_of_list kind listing, Prod.mk.injEq] at ended
      obtain ⟨worked, rfl⟩ := ended
      obtain ⟨parts, each, rfl⟩ := Except.map_eq_ok_iff.mp worked
      refine ⟨reached, fun w member => ?_⟩
      obtain ⟨part, inParts, member⟩ := List.mem_flatten.mp member
      obtain ⟨d, matching, made⟩ := Except.exists_of_mem_mapM each inParts
      obtain ⟨kept, inDocuments, -, given⟩ :=
        exists_of_mem_listing read (List.mem_filter.mp matching).1
      have canonical := canonical_of_readBack? (keeping.canonical kept inDocuments) given
      exact proper_of_stageOne writes canonical made w member
    | error refusal =>
      rw [read] at listing
      rw [staged_eq kind] at ended
      obtain ⟨_, _, accepted, _⟩ := run_bind_eq_ok_iff.mp ended
      obtain ⟨_, _, listed, _⟩ := run_bind_eq_ok_iff.mp accepted
      cases listing.symm.trans (fromStore_run_eq_ok_iff.mp listed)

/-- A run that ends well has committed what it staged. -/
theorem migrate_in_table [FloatReader] {limit : Nat} {outcome : Outcome}
    (writes : t.WritesCanonical) (reached : Reached batches s)
    (ended : (t.migrate limit).run s = (.ok outcome, s')) :
    ∃ ws, (t.staged.run s).1 = .ok ws ∧
      Reached (batches ++ Batch.chunks ⟨t.collection, ws⟩ limit) s' ∧
      (PlainIds t.collection batches →
        PlainIds t.collection (batches ++ Batch.chunks ⟨t.collection, ws⟩ limit)) := by
  obtain ⟨ws, next, worked, rest⟩ := run_bind_eq_ok_iff.mp ended
  obtain ⟨between, proper⟩ := staged_in_table writes reached worked
  refine ⟨ws, by rw [worked], ?_, ?_⟩
  · refine reached_of_commitAll between (fun batch member w inBatch => ?_) rest
    exact (proper w (Batch.mem_of_mem_chunks member inBatch)).canonical
  · intro plain id data set
    rw [writesTo_append, List.mem_append] at set
    rcases set with old | new
    · exact plain id data old
    · obtain ⟨batch, member, -, inBatch⟩ := mem_writesTo.mp new
      exact (proper _ (Batch.mem_of_mem_chunks member inBatch)).plain id data rfl

/-- Batches of one collection that together can be made are all taken. -/
theorem commitAll_run_of_foldlM [FloatReader] {collection : String} {parts : List (List Write)}
    {rows : List Row}
    (made : parts.flatten.foldlM (applyWrite collection) s.rows = .ok rows) (outcome : Outcome) :
    ∃ outcome', (commitAll (parts.map (⟨collection, ·⟩)) outcome).run s =
      (.ok outcome', { s with rows }) := by
  induction parts generalizing s outcome with
  | nil =>
    cases made
    exact ⟨outcome, rfl⟩
  | cons part parts ih =>
    rw [List.flatten_cons, List.foldlM_append, Except.bind_eq_ok_iff] at made
    obtain ⟨between, first, later⟩ := made
    have taken : (DocumentStore.commit ⟨collection, part⟩).run s =
        (.ok (), { s with rows := between }) := commit_eq_ok_iff.mpr ⟨between, first, rfl⟩
    obtain ⟨outcome', rest⟩ := ih (s := { s with rows := between }) later
      { outcome with written := outcome.written + part.length, batches := outcome.batches + 1 }
    exact ⟨outcome', run_bind_eq_ok_iff.mpr ⟨(), _, fromStore_run_eq_ok_iff.mpr taken, rest⟩⟩

/-- A table whose listing of a collection is what it holds takes every batch of a run. -/
theorem migrate_of_keeping [FloatReader] (keeping : Keeping t.collection batches s documents)
    (readable : Readable t.collection batches) (plain : PlainIds t.collection batches) (limit : Nat)
    (refusal : StoreError) :
    (t.migrate limit).run s ≠ (.error (.storeError refusal), next) := by
  by_cases kind : t.operation = .create
  · cases made : t.newDocument with
    | error e =>
      rw [migrate_run_of_not_made kind limit made]
      rintro same
      cases same
      rcases newDocument_eq_error made with ⟨_, _, impossible⟩ | ⟨_, impossible⟩ <;>
        cases impossible
    | ok data =>
      let taken := (TableStore.rowsOf t.collection s.rows).map (·.id)
      let drawn := s.ids.draw taken
      have free : drawn.1 ∉ taken := s.ids.draw_not_mem _
      have committed := commit_set_of_free { s with ids := drawn.2 } free data
      rw [migrate_run_of_created kind limit made (allocate_run _ s) committed]
      exact nofun
  · obtain ⟨listed, read⟩ := keeping.exists_listing readable
    have listing := keeping.list_run
    rw [read] at listing
    have staged := staged_run_of_list kind listing
    intro failed
    cases worked : (listed.filter fun d => t.accepts d.data).mapM t.stageOne with
    | error e =>
      rw [worked] at staged
      rw [migrate, run_bind, staged] at failed
      cases failed
      obtain ⟨d, _, unmade⟩ := Except.exists_of_mapM_eq_error worked
      rcases stageOne_eq_error unmade with ⟨_, _, impossible⟩ | ⟨_, impossible⟩ <;>
        cases impossible
    | ok parts =>
      rw [worked] at staged
      -- The documents are listed with other floats, maybe, but under their own ids.
      have named : ∀ d ∈ listed.filter fun d => t.accepts d.data, d.id ∈ documents.map (·.id) :=
        fun d matching => keeping.ids_of_listing plain read (List.mem_filter.mp matching).1
      obtain ⟨made, done⟩ := exists_stage_of_parts named worked
      rcases keeping.holds.foldlM keeping.written.unique parts.flatten with
        ⟨_, rows, _, applied, _⟩ | ⟨_, impossible, _⟩
      · have whole : (pieces (max limit 1) [] parts.flatten).flatten = parts.flatten :=
          flatten_pieces _ [] _
        rw [← whole] at applied
        obtain ⟨outcome, committed⟩ := commitAll_run_of_foldlM (s := s) applied
          ⟨t.collection, t.operation, 0, 0⟩
        rw [migrate, run_bind, staged] at failed
        cases committed.symm.trans failed
      · cases done.symm.trans impossible

theorem preview_run_of_list [FloatReader]
    (read : (DocumentStore.list t.collection).run s = (.ok documents, s)) :
    t.preview.run s = ((documents.filter fun d => t.accepts d.data).mapM t.previewOne, s) := by
  rw [preview, run_bind, accepted_run_of_list read]
  rfl

end Table

end CompiledTemplate

namespace TableStore

/-- Templates of a collection find in the table what was committed to it, as it is read. They may
fail for a value or for a path of their own, but not for the store. -/
structure Usable [FloatReader] (collection : String) (batches : List Batch) (s : TableStore) :
    Prop where
  preview : ∃ documents listed, MemoryStore.Written [] (writesTo collection batches) documents ∧
    listing collection documents = .ok listed ∧
    (Kept collection batches → listed = documents) ∧
    ∀ t : CompiledTemplate, t.collection = collection →
      t.preview.run s = ((listed.filter fun d => t.accepts d.data).mapM t.previewOne, s)
  migrate : ∀ (t : CompiledTemplate) (limit : Nat) (refusal : StoreError) (next : TableStore),
    t.collection = collection → (t.migrate limit).run s ≠ (.error (.storeError refusal), next)

variable {batches : List Batch} {s : TableStore}

theorem Reached.usable [FloatReader] {collection : String} (reached : Reached batches s)
    (readable : Readable collection batches) (plain : PlainIds collection batches) :
    Usable collection batches s := by
  obtain ⟨documents, keeping⟩ := reached.keeping collection
  obtain ⟨listed, read⟩ := keeping.exists_listing readable
  have listing := keeping.list_run
  rw [read] at listing
  refine ⟨⟨documents, listed, keeping.written, read, fun kept => ?_, ?_⟩, ?_⟩
  · cases (keeping.listing_of_kept plain kept).symm.trans read
    rfl
  · rintro t rfl
    exact CompiledTemplate.preview_run_of_list listing
  · rintro t limit refusal next rfl
    exact CompiledTemplate.migrate_of_keeping keeping readable plain limit refusal

/-- A table answers for each collection with the bodies that were committed to it last, as they are
read. One body that is nested too deeply, or has a float that is refused, cannot be found and keeps
the whole collection from being listed. Where a run ends well, the batches of what it staged are
taken, and if they leave no such body, the collection can be previewed and migrated again. -/
theorem Reached.reads_back [FloatReader] (reached : Reached batches s) :
    (∀ collection, ReadsBack collection batches s) ∧
    ∀ (t : CompiledTemplate) (limit : Nat) (outcome : Outcome) (s' : TableStore),
      t.WritesCanonical → (t.migrate limit).run s = (.ok outcome, s') →
      ∃ writes issued, (t.staged.run s).1 = .ok writes ∧
        issued = Batch.chunks ⟨t.collection, writes⟩ limit ∧
        Reached (batches ++ issued) s' ∧
        (∀ collection, ReadsBack collection (batches ++ issued) s') ∧
        (Readable t.collection (batches ++ issued) → PlainIds t.collection batches →
          Usable t.collection (batches ++ issued) s') := by
  refine ⟨reached.readsBack, ?_⟩
  intro t limit outcome s' canonical ended
  obtain ⟨writes, staged, after, plain⟩ := CompiledTemplate.migrate_in_table canonical reached ended
  refine ⟨writes, _, staged, rfl, after, after.readsBack, ?_⟩
  intro readable plainBefore
  exact after.usable readable (plain plainBefore)

end TableStore

namespace Sample

attribute [local instance] FloatReader.exact

def wines : List Snapshot := [⟨"w1", [("year", .number (.ofNat 1999))]⟩, ⟨"w2", []⟩]

def cellar : Batch := ⟨"wines", wines.map fun d => .set d.id d.data⟩

def bottled : TableStore := { rows := wines.map (rowOf "wines") }

/-- Makes an object with an empty label in every document. -/
def relabel : Template :=
  { operation := .update, collection := "wines"
    changes := some [{ path := "label.front", operation := .update }] }

theorem canonical_cellar : cellar.Canonical := by
  have year : (Value.object [("year", .number (.ofNat 1999))]).Canonical :=
    ⟨List.pairwise_singleton _ _, trivial, trivial⟩
  have blank : (Value.object []).Canonical := ⟨.nil, trivial⟩
  simp [Batch.Canonical, cellar, wines, Write.body?, year, blank]

theorem reached_bottled : TableStore.Reached [cellar] bottled := by
  have taken : (DocumentStore.commit cellar).run ({} : TableStore) = (.ok (), bottled) := rfl
  exact (TableStore.Reached.empty ⟨0⟩).commit canonical_cellar taken

theorem keeping_bottled : TableStore.Keeping "wines" [cellar] bottled wines where
  holds := rfl
  written := by
    have made : cellar.writes.foldlM (MemoryStore.stageOne "wines") [] = .ok wines := rfl
    exact .of_foldlM List.nodup_nil made
  canonical := by simpa [Batch.Canonical, cellar, Write.body?] using canonical_cellar

def relabeled : List Write :=
  [.update "w1" [("label", .object [("front", .null)]), ("year", .number (.ofNat 1999))],
    .update "w2" [("label", .object [("front", .null)])]]

/-- Floats are read exactly here, so that only the depth of a body matters. -/
theorem kept_of_shallow {collection : String} {batches : List Batch} {s : TableStore}
    (reached : TableStore.Reached batches s)
    (shallow : ∀ w ∈ writesTo collection batches, ∀ data ∈ w.body?,
      (Value.object data).depth ≤ 127) : Kept collection batches := by
  refine kept_of_writes fun w member data body => ?_
  obtain ⟨batch, taken, -, inBatch⟩ := mem_writesTo.mp member
  exact ⟨reached.canonical batch taken w inBatch data body, shallow w member data body,
    Value.steady_of_faithful FloatReader.faithful_exact _⟩

theorem kept_cellar : Kept "wines" [cellar] := by
  refine kept_of_shallow reached_bottled ?_
  rw [show writesTo "wines" [cellar] = cellar.writes from rfl]
  simp [cellar, wines, Write.body?, Value.depth, Value.membersDepth]

theorem plain_cellar : PlainIds "wines" [cellar] := by
  intro id data set
  rw [show writesTo "wines" [cellar] = cellar.writes from rfl] at set
  simp only [cellar, wines, List.map_cons, List.map_nil, List.mem_cons, Write.set.injEq,
    List.not_mem_nil, or_false] at set
  rcases set with ⟨rfl, -⟩ | ⟨rfl, -⟩ <;> decide

theorem staged_relabel : relabel.compiled.staged.run bottled = (.ok relabeled, bottled) := by
  have read := keeping_bottled.list_run
  rw [keeping_bottled.listing_of_kept plain_cellar kept_cellar] at read
  have worked : (wines.filter fun d => relabel.compiled.accepts d.data).mapM
      relabel.compiled.stageOne = .ok (relabeled.map fun w => [w]) := rfl
  rw [CompiledTemplate.staged_run_of_list (t := relabel.compiled) nofun read, worked]
  rfl

theorem reads_back_of_relabel :
    ∃ issued s, (relabel.compiled.migrate 1).run bottled = (.ok ⟨"wines", .update, 2, 2⟩, s) ∧
      TableStore.Usable "wines" ([cellar] ++ issued) s ∧
      (DocumentStore.find "wines" "w2").run s =
        (.ok (some ⟨"w2", [("label", .object [("front", .null)])]⟩), s) := by
  have canonical : relabel.compiled.WritesCanonical := by
    intro a member document v _ resolves
    cases List.mem_singleton.mp member
    cases resolves with
    | absent => trivial
    | source impossible => cases impossible
  obtain ⟨s, ended⟩ : ∃ s, (relabel.compiled.migrate 1).run bottled =
      (.ok ⟨"wines", .update, 2, 2⟩, s) := by
    rw [CompiledTemplate.migrate, run_bind, staged_relabel]
    exact ⟨_, rfl⟩
  obtain ⟨writes, issued, staged, cut, after, answers, usable⟩ :=
    (TableStore.Reached.reads_back reached_bottled).2 relabel.compiled 1 _ s canonical ended
  rw [staged_relabel, Except.ok.injEq] at staged
  subst staged cut
  have kept : Kept "wines"
      ([cellar] ++ Batch.chunks ⟨relabel.compiled.collection, relabeled⟩ 1) := by
    refine kept_of_shallow after ?_
    rw [show writesTo "wines" _ = cellar.writes ++ relabeled from rfl]
    simp [cellar, wines, relabeled, Write.body?, Value.depth, Value.membersDepth]
  refine ⟨_, s, ended, usable kept.readable plain_cellar, ?_⟩
  have left : bodyAfter "w2" (writesTo "wines"
      ([cellar] ++ Batch.chunks ⟨relabel.compiled.collection, relabeled⟩ 1)) [] =
        some [("label", .object [("front", .null)])] := rfl
  rw [(answers "wines").found, left]
  dsimp only
  rw [TableStore.givenBack, kept "w2" _ left]
  rfl

/-- A body that is one level too deep goes in and does not come out. -/
theorem unreadable_body :
    ¬ ∀ (batches : List Batch) (s : TableStore), TableStore.Reached batches s →
      ∀ collection, ∃ documents, (DocumentStore.list collection).run s = (.ok documents, s) := by
  intro claimed
  let abyss : Batch := ⟨"users", [.set "u1" [("k", nested 127)]]⟩
  have canonical : abyss.Canonical := by
    have ordered : (Value.object [("k", nested 127)]).Canonical := canonical_nested 128
    simpa [Batch.Canonical, abyss, Write.body?] using ordered
  have taken : (DocumentStore.commit abyss).run ({} : TableStore) =
      (.ok (), { rows := [rowOf "users" ⟨"u1", [("k", nested 127)]⟩] }) := rfl
  have reached := (TableStore.Reached.empty ⟨0⟩).commit canonical taken
  have unreadable : ¬ Readable "users" [abyss] := by
    intro readable
    have deep : 127 < (nested 128).depth := by
      rw [depth_nested]
      omega
    have read := readable "u1" [("k", nested 127)] rfl
    rw [readBack?_of_deep deep] at read
    cases read
  obtain ⟨documents, listed⟩ := claimed _ _ reached "users"
  obtain ⟨id, refused⟩ := (reached.readsBack "users").refused unreadable
  cases refused.symm.trans listed

end Sample

end DocumentMigration
