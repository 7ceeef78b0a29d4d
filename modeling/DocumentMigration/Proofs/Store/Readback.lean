import DocumentMigration.Proofs.Store.Interchange

/-! What a table gives back of the batches that it took. It takes bodies nested to any depth, but
reads them back up to the nesting limit only, and with the floats that the reader takes their texts
for. One body that it cannot read fails every listing of its collection. -/
namespace DocumentMigration

open Json DocumentMigration.Action

/-- The bodies of a batch have their members in order. -/
def Batch.Canonical (batch : Batch) : Prop :=
  ∀ w ∈ batch.writes, ∀ data ∈ w.body?, (Value.object data).Canonical

/-- What some batches write to one collection. -/
def writesTo (collection : String) (batches : List Batch) : List Write :=
  (batches.filter (·.collection = collection)).flatMap (·.writes)

/-- All bodies that the batches leave in the collection can be read, whatever their floats come
to. -/
def Readable [FloatReader] (collection : String) (batches : List Batch) : Prop :=
  ∀ id data, bodyAfter id (writesTo collection batches) [] = some data → (readBack? data).isSome

/-- All bodies that the batches leave in the collection are read as they are. -/
def Kept [FloatReader] (collection : String) (batches : List Batch) : Prop :=
  ∀ id data, bodyAfter id (writesTo collection batches) [] = some data → readBack? data = some data

/-- The batches set no id of the collection that a column would cut short. -/
def PlainIds (collection : String) (batches : List Batch) : Prop :=
  ∀ id data, .set id data ∈ writesTo collection batches → '\x00' ∉ id.toList

section Batches

variable {collection : String} {batches : List Batch} {batch : Batch} {w : Write}

theorem writesTo_append (batches later : List Batch) :
    writesTo collection (batches ++ later) =
      writesTo collection batches ++ writesTo collection later := by
  rw [writesTo, List.filter_append, List.flatMap_append]
  rfl

theorem writesTo_singleton_self : writesTo batch.collection [batch] = batch.writes := by
  simp [writesTo]

theorem writesTo_singleton_of_ne (elsewhere : batch.collection ≠ collection) :
    writesTo collection [batch] = [] := by
  simp [writesTo, elsewhere]

theorem mem_writesTo :
    w ∈ writesTo collection batches ↔
      ∃ batch ∈ batches, batch.collection = collection ∧ w ∈ batch.writes := by
  simp only [writesTo, List.mem_flatMap, List.mem_filter, decide_eq_true_eq, and_assoc]

theorem Kept.readable [FloatReader] (kept : Kept collection batches) :
    Readable collection batches := by
  intro id data left
  rw [kept id data left]
  rfl

/-- Every body that is left has been written. -/
theorem kept_of_writes [FloatReader]
    (storable : ∀ w ∈ writesTo collection batches, ∀ data ∈ w.body?, Storable data) :
    Kept collection batches := by
  intro id data left
  unfold bodyAfter at left
  cases last : lastWrite id (writesTo collection batches) with
  | none =>
    rw [last] at left
    cases left
  | some w =>
    rw [last] at left
    exact (storable w (mem_of_lastWrite last).1 data left).readBack?_eq

end Batches

namespace TableStore

/-- The states that a table gets to from an empty one by taking these batches. Ids may have been
drawn in between. -/
inductive Reached [FloatReader] : List Batch → TableStore → Prop where
  | empty (ids : IdSource) : Reached [] { ids }
  | commit {batches : List Batch} {batch : Batch} {s s' : TableStore} : Reached batches s →
      batch.Canonical → (DocumentStore.commit batch).run s = (.ok (), s') →
      Reached (batches ++ [batch]) s'
  | allocate {batches : List Batch} {collection id : String} {s s' : TableStore} :
      Reached batches s → (DocumentStore.allocate collection).run s = (.ok id, s') →
      Reached batches s'

variable {batches : List Batch} {s : TableStore}

theorem Reached.canonical [FloatReader] (reached : Reached batches s) :
    ∀ batch ∈ batches, batch.Canonical := by
  induction reached with
  | empty ids => exact nofun
  | commit _ ordered _ ih =>
    intro batch member
    rcases List.mem_append.mp member with earlier | last
    · exact ih batch earlier
    · exact List.mem_singleton.mp last ▸ ordered
  | allocate _ _ ih => exact ih

/-- A batch that is taken adds its writes to what has been written. -/
theorem holds_commit {collection : String} {batch : Batch} {documents : List Snapshot}
    {rows rows' : List Row} (holds : Holds collection rows documents)
    (written : MemoryStore.Written [] (writesTo collection batches) documents)
    (applied : batch.writes.foldlM (applyWrite batch.collection) rows = .ok rows') :
    ∃ documents', Holds collection rows' documents' ∧
      MemoryStore.Written [] (writesTo collection (batches ++ [batch])) documents' := by
  rw [writesTo_append]
  by_cases here : batch.collection = collection
  · subst here
    rw [writesTo_singleton_self]
    rcases holds.foldlM written.unique batch.writes with
      ⟨next, _, staged, done, holds'⟩ | ⟨refusal, _, failed⟩
    · cases done.symm.trans applied
      rcases written.foldlM batch.collection batch.writes with
        ⟨last, made, written'⟩ | ⟨_, _, _, _, _, _, _, failed⟩
      · cases made.symm.trans staged
        exact ⟨next, holds', written'⟩
      · cases failed.symm.trans staged
    · cases failed.symm.trans applied
  · rw [writesTo_singleton_of_ne here, List.append_nil]
    exact ⟨documents, (rowsOf_foldlM_of_ne (Ne.symm here) applied).trans holds, written⟩

theorem commit_eq_ok_iff [FloatReader] {batch : Batch} {s s' : TableStore} :
    (DocumentStore.commit batch).run s = (.ok (), s') ↔
      ∃ rows, batch.writes.foldlM (applyWrite batch.collection) s.rows = .ok rows ∧
        s' = { s with rows } := by
  rw [commit_run]
  cases batch.writes.foldlM (applyWrite batch.collection) s.rows <;> simp [eq_comm]

/-- Documents that the rows of a collection stand for, and that its writes have made of nothing. -/
structure Keeping (collection : String) (batches : List Batch) (s : TableStore)
    (documents : List Snapshot) : Prop where
  holds : Holds collection s.rows documents
  written : MemoryStore.Written [] (writesTo collection batches) documents
  canonical : ∀ d ∈ documents, (Value.object d.data).Canonical

theorem Reached.keeping [FloatReader] (reached : Reached batches s) (collection : String) :
    ∃ documents, Keeping collection batches s documents := by
  have rows : ∃ documents, Holds collection s.rows documents ∧
      MemoryStore.Written [] (writesTo collection batches) documents := by
    induction reached with
    | empty ids => exact ⟨[], rfl, .nil List.nodup_nil⟩
    | commit _ _ taken ih =>
      obtain ⟨documents, holds, written⟩ := ih
      obtain ⟨rows, applied, rfl⟩ := commit_eq_ok_iff.mp taken
      exact holds_commit holds written applied
    | allocate _ allocated ih =>
      cases allocated
      exact ih
  obtain ⟨documents, holds, written⟩ := rows
  refine ⟨documents, holds, written, ?_⟩
  intro d member
  rcases written.mem member with impossible | ⟨w, written, -, body⟩
  · cases impossible
  · obtain ⟨batch, taken, -, inBatch⟩ := mem_writesTo.mp written
    exact reached.canonical batch taken w inBatch d.data body

section Reading

variable [FloatReader]

/-- The listing of documents as they are given back, with their ids up to the first null character.
-/
def listing (collection : String) (documents : List Snapshot) :
    Except StoreError (List Snapshot) :=
  documents.mapM fun d => givenBack collection (columnText d.id) d.data

variable {collection : String} {documents listed : List Snapshot} {d : Snapshot}

theorem givenBack_eq_ok_iff {id : String} {data : Object} :
    givenBack collection id data = .ok d ↔ ∃ read, readBack? data = some read ∧ d = ⟨id, read⟩ := by
  rw [givenBack]
  cases readBack? data <;> simp [eq_comm]

theorem givenBack_eq_error {id : String} {data : Object} {e : StoreError}
    (refused : givenBack collection id data = .error e) :
    e = .invalidDocument collection id .malformed := by
  rw [givenBack] at refused
  cases read : readBack? data with
  | none =>
    rw [read] at refused
    cases refused
    rfl
  | some data =>
    rw [read] at refused
    cases refused

/-- What is listed has been given back for one of the documents. -/
theorem exists_of_mem_listing (read : listing collection documents = .ok listed)
    (member : d ∈ listed) :
    ∃ e ∈ documents, d.id = columnText e.id ∧ readBack? e.data = some d.data := by
  obtain ⟨e, inDocuments, given⟩ := Except.exists_of_mem_mapM read member
  obtain ⟨data, read, rfl⟩ := givenBack_eq_ok_iff.mp given
  exact ⟨e, inDocuments, rfl, read⟩

namespace Keeping

omit [FloatReader] in
theorem body_of_mem (keeping : Keeping collection batches s documents) (member : d ∈ documents) :
    bodyAfter d.id (writesTo collection batches) [] = some d.data := by
  rw [← keeping.written.body]
  exact bodyOf_of_mem keeping.written.unique member

theorem list_run (keeping : Keeping collection batches s documents) :
    (DocumentStore.list collection).run s = (listing collection documents, s) := by
  rw [TableStore.list_run, keeping.holds, List.mapM_map, listing]
  refine congrArg (·, s) (Except.mapM_congr fun d member => ?_)
  rw [Function.comp_apply, readRow, rowOf_id, readAs_rowOf (keeping.canonical d member)]

theorem exists_listing (keeping : Keeping collection batches s documents)
    (readable : Readable collection batches) :
    ∃ listed, listing collection documents = .ok listed := by
  refine Except.exists_mapM_eq_ok fun d member => ?_
  obtain ⟨read, found⟩ :=
    Option.isSome_iff_exists.mp (readable d.id d.data (keeping.body_of_mem member))
  exact ⟨_, givenBack_eq_ok_iff.mpr ⟨read, found, rfl⟩⟩

theorem listing_eq_error (keeping : Keeping collection batches s documents)
    (unreadable : ¬ Readable collection batches) :
    ∃ id, listing collection documents = .error (.invalidDocument collection id .malformed) := by
  cases read : listing collection documents with
  | ok listed =>
    refine (unreadable fun id data left => ?_).elim
    rw [← keeping.written.body] at left
    obtain ⟨_, -, given⟩ := Except.exists_mem_of_mapM read (mem_of_bodyOf left)
    obtain ⟨_, found, -⟩ := givenBack_eq_ok_iff.mp given
    exact Option.isSome_iff_exists.mpr ⟨_, found⟩
  | error refusal =>
    obtain ⟨d, -, refused⟩ := Except.exists_of_mapM_eq_error read
    exact ⟨columnText d.id, congrArg _ (givenBack_eq_error refused)⟩

theorem find_run (keeping : Keeping collection batches s documents) (id : String) :
    (DocumentStore.find collection id).run s =
      (match bodyAfter id (writesTo collection batches) [] with
        | none => .ok none
        | some data => (givenBack collection id data).map some, s) := by
  rw [TableStore.find_run, keeping.holds.find?, ← keeping.written.body, bodyOf]
  cases found : documents.find? (·.id = id) with
  | none => rfl
  | some d =>
    have canonical := keeping.canonical d (List.mem_of_find?_eq_some found)
    simp only [Option.map_some, readAs_rowOf canonical]

theorem ids_of_listing (keeping : Keeping collection batches s documents)
    (plain : PlainIds collection batches) (read : listing collection documents = .ok listed)
    (member : d ∈ listed) : d.id ∈ documents.map (·.id) := by
  obtain ⟨e, inDocuments, same, -⟩ := exists_of_mem_listing read member
  rcases keeping.written.mem_ids (List.mem_map_of_mem inDocuments) with impossible | ⟨data, set⟩
  · cases impossible
  · rw [columnText_eq_self (plain e.id data set)] at same
    exact List.mem_map.mpr ⟨e, inDocuments, same.symm⟩

/-- Documents that are read as they are listed under the same ids. -/
theorem listing_of_kept (keeping : Keeping collection batches s documents)
    (plain : PlainIds collection batches) (kept : Kept collection batches) :
    listing collection documents = .ok documents := by
  rw [listing, Except.mapM_eq_ok_iff, List.forall₂_same]
  intro d member
  rcases keeping.written.mem_ids (List.mem_map_of_mem member) with impossible | ⟨data, set⟩
  · cases impossible
  · rw [columnText_eq_self (plain d.id data set)]
    exact givenBack_eq_ok_iff.mpr ⟨d.data, kept d.id d.data (keeping.body_of_mem member), rfl⟩

end Keeping

/-- What a table answers for a collection after the batches that it took. -/
structure ReadsBack (collection : String) (batches : List Batch) (s : TableStore) : Prop where
  /-- A document is found with what the body that was committed last is read as. -/
  found : ∀ id, (DocumentStore.find collection id).run s =
    (match bodyAfter id (writesTo collection batches) [] with
      | none => .ok none
      | some data => (givenBack collection id data).map some, s)
  listed : ∃ documents, MemoryStore.Written [] (writesTo collection batches) documents ∧
    (DocumentStore.list collection).run s = (listing collection documents, s) ∧
    (Readable collection batches → ∃ listed, listing collection documents = .ok listed) ∧
    (PlainIds collection batches → Kept collection batches →
      listing collection documents = .ok documents)
  refused : ¬ Readable collection batches → ∃ id,
    (DocumentStore.list collection).run s = (.error (.invalidDocument collection id .malformed), s)

theorem Reached.readsBack (reached : Reached batches s) (collection : String) :
    ReadsBack collection batches s := by
  obtain ⟨documents, keeping⟩ := reached.keeping collection
  refine ⟨keeping.find_run, ⟨documents, keeping.written, keeping.list_run, keeping.exists_listing,
    keeping.listing_of_kept⟩, fun unreadable => ?_⟩
  obtain ⟨id, refused⟩ := keeping.listing_eq_error unreadable
  exact ⟨id, keeping.list_run.trans (congrArg (·, s) refused)⟩

end Reading

end TableStore

end DocumentMigration
