import DocumentMigration.Proofs.Store.Commit
import DocumentMigration.Proofs.Store.DocumentText
import DocumentMigration.Proofs.Store.Table

/-! The store in memory and the store in a table answer every sequence of requests alike, but for
the ids in a listing and for floats: a column gives back an id only up to its first null character,
and a body is read from its text. -/
namespace DocumentMigration

open Json DocumentMigration.Action

/-- The row of a document. -/
def rowOf (collection : String) (d : Snapshot) : Row := ⟨collection, d.id, encodeDocument d.data⟩

@[simp] theorem rowOf_collection (collection : String) (d : Snapshot) :
    (rowOf collection d).collection = collection := rfl

@[simp] theorem rowOf_id (collection : String) (d : Snapshot) :
    (rowOf collection d).id = d.id := rfl

namespace TableStore

/-- The rows of a collection are those of these documents. -/
def Holds (collection : String) (rows : List Row) (documents : List Snapshot) : Prop :=
  rowsOf collection rows = documents.map (rowOf collection)

variable {collection id : String} {rows : List Row} {documents documents' : List Snapshot}
variable {w : Write}

theorem isAt_rowOf (d : Snapshot) :
    Row.isAt collection id (rowOf collection d) = true ↔ d.id = id := by
  simp

theorem upsert_eq (body : String) : upsert collection id body rows =
    if (updateRows collection id body rows).2 = 0 then rows ++ [⟨collection, id, body⟩]
    else (updateRows collection id body rows).1 := by
  unfold upsert
  rcases updateRows collection id body rows with ⟨updated, _ | count⟩ <;> rfl

theorem upsert_of_free (free : id ∉ (rowsOf collection rows).map (·.id)) (body : String) :
    upsert collection id body rows = rows ++ [⟨collection, id, body⟩] := by
  have missing : (updateRows collection id body rows).2 = 0 := by
    rw [← updateRows_rowsOf]
    refine List.countP_eq_zero.mpr fun r member here => free ?_
    exact List.mem_map.mpr ⟨r, member, (Row.isAt_iff.mp here).2⟩
  rw [upsert_eq, if_pos missing]

theorem commit_set_of_free [FloatReader] (s : TableStore)
    (free : id ∉ (rowsOf collection s.rows).map (·.id)) (data : Object) :
    (DocumentStore.commit ⟨collection, [.set id data]⟩).run s =
      (.ok (), { s with rows := s.rows ++ [rowOf collection ⟨id, data⟩] }) := by
  have written : [Write.set id data].foldlM (applyWrite collection) s.rows =
      .ok (s.rows ++ [rowOf collection ⟨id, data⟩]) := by
    rw [List.foldlM_cons, applyWrite, upsert_of_free free]
    rfl
  rw [commit_run, written]

theorem applyWrite_update (data : Object) : applyWrite collection rows (.update id data) =
    if (updateRows collection id (encodeDocument data) rows).2 = 0 then
      .error (.notFound collection id)
    else .ok (updateRows collection id (encodeDocument data) rows).1 := by
  rw [applyWrite]
  rcases updateRows collection id (encodeDocument data) rows with ⟨updated, _ | count⟩ <;> rfl

namespace Holds

variable (holds : Holds collection rows documents)
include holds

theorem updateRows_eq_zero_iff (body : String) :
    (updateRows collection id body rows).2 = 0 ↔ id ∉ documents.map (·.id) := by
  rw [← updateRows_rowsOf, holds]
  simp [TableStore.updateRows, List.countP_eq_zero]

theorem updateRows (id : String) (data : Object) :
    Holds collection (updateRows collection id (encodeDocument data) rows).1
      (documents.filterMap (settle [.update id data])) := by
  rw [Holds, rowsOf_updateRows, holds, List.map_filterMap, TableStore.updateRows, List.map_map,
    ← List.filterMap_eq_map]
  refine List.filterMap_congr fun d _ => ?_
  by_cases named : d.id = id
  · have here : settle [.update id data] d = some ⟨d.id, data⟩ := settle_cons_of_eq named.symm
    simp only [Function.comp_apply, if_pos ((isAt_rowOf d).mpr named), here]
    rfl
  · have here : settle [.update id data] d = some d := settle_cons_of_ne (Ne.symm named)
    simp only [Function.comp_apply, if_neg (mt (isAt_rowOf d).mp named), here]
    rfl

theorem deleteRows (id : String) :
    Holds collection (deleteRows collection id rows)
      (documents.filterMap (settle [.delete id])) := by
  have commute : rowsOf collection (TableStore.deleteRows collection id rows) =
      TableStore.deleteRows collection id (rowsOf collection rows) := by
    simp only [rowsOf, TableStore.deleteRows, List.filter_filter, Bool.and_comm]
  rw [Holds, commute, holds, List.map_filterMap, TableStore.deleteRows, List.filter_map,
    ← List.filterMap_eq_map, ← List.filterMap_eq_filter, List.filterMap_filterMap]
  refine List.filterMap_congr fun d _ => ?_
  by_cases named : d.id = id
  · have here : settle [.delete id] d = none := settle_cons_of_eq named.symm
    simp [here, (isAt_rowOf d).mpr named]
  · have here : settle [.delete id] d = some d := settle_cons_of_ne (Ne.symm named)
    simp [here, mt (isAt_rowOf d).mp named]

theorem append (d : Snapshot) :
    Holds collection (rows ++ [rowOf collection d]) (documents ++ [d]) := by
  rw [Holds, rowsOf_append, holds, List.map_append]
  simp [rowsOf, rowOf]

/-- A write to the table does what it does in memory. -/
theorem applyWrite (unique : UniqueIds documents)
    (done : MemoryStore.stageOne collection documents w = .ok documents') :
    ∃ rows', applyWrite collection rows w = .ok rows' ∧ Holds collection rows' documents' := by
  cases w with
  | set id data =>
    rw [MemoryStore.stageOne, Except.ok.injEq] at done
    rw [TableStore.applyWrite, upsert_eq]
    by_cases present : id ∈ documents.map (·.id)
    · rw [MemoryStore.replace?_eq_some data unique present, Option.getD_some] at done
      rw [if_neg (fun missing => (holds.updateRows_eq_zero_iff _).mp missing present)]
      exact ⟨_, rfl, done ▸ holds.updateRows id data⟩
    · rw [MemoryStore.replace?_eq_none_iff.mpr present, Option.getD_none] at done
      rw [if_pos ((holds.updateRows_eq_zero_iff _).mpr present)]
      exact ⟨_, rfl, done ▸ holds.append ⟨id, data⟩⟩
  | update id data =>
    rw [applyWrite_update]
    by_cases present : id ∈ documents.map (·.id)
    · rw [MemoryStore.stageOne, MemoryStore.replace?_eq_some data unique present,
        Except.ok.injEq] at done
      rw [if_neg (fun missing => (holds.updateRows_eq_zero_iff _).mp missing present)]
      exact ⟨_, rfl, done ▸ holds.updateRows id data⟩
    · rw [MemoryStore.stageOne, MemoryStore.replace?_eq_none_iff.mpr present] at done
      cases done
  | delete id =>
    rw [MemoryStore.stageOne, Except.ok.injEq, MemoryStore.remove_eq unique] at done
    exact ⟨_, rfl, done ▸ holds.deleteRows id⟩

theorem applyWrite_refused {refusal : StoreError}
    (failed : MemoryStore.stageOne collection documents w = .error refusal) :
    TableStore.applyWrite collection rows w = .error refusal := by
  cases w with
  | update id data =>
    cases found : MemoryStore.replace? id data documents with
    | some staged => simp [MemoryStore.stageOne, found] at failed
    | none =>
      rw [MemoryStore.stageOne, found] at failed
      cases failed
      rw [applyWrite_update, if_pos]
      rw [holds.updateRows_eq_zero_iff]
      exact MemoryStore.replace?_eq_none_iff.mp found
  | _ => cases failed

/-- A batch on the table comes to what it comes to in memory. -/
theorem foldlM (unique : UniqueIds documents) (writes : List Write) :
    (∃ documents' rows',
      writes.foldlM (MemoryStore.stageOne collection) documents = .ok documents' ∧
      writes.foldlM (TableStore.applyWrite collection) rows = .ok rows' ∧
      Holds collection rows' documents') ∨
    ∃ refusal, writes.foldlM (MemoryStore.stageOne collection) documents = .error refusal ∧
      writes.foldlM (TableStore.applyWrite collection) rows = .error refusal := by
  induction writes generalizing rows documents with
  | nil => exact .inl ⟨documents, rows, rfl, rfl, holds⟩
  | cons w writes ih =>
    rw [List.foldlM_cons, List.foldlM_cons]
    cases staged : MemoryStore.stageOne collection documents w with
    | ok next =>
      obtain ⟨nextRows, applied, nextHolds⟩ := holds.applyWrite unique staged
      rw [applied]
      exact ih nextHolds ((MemoryStore.Written.nil unique).step staged).unique
    | error refusal =>
      rw [holds.applyWrite_refused staged]
      exact .inr ⟨refusal, rfl, rfl⟩

theorem find? (id : String) : rows.find? (Row.isAt collection id) =
    (documents.find? (·.id = id)).map (rowOf collection) := by
  have inRows : rows.find? (Row.isAt collection id) =
      (rowsOf collection rows).find? (Row.isAt collection id) := by
    rw [rowsOf, List.find?_filter]
    congr 1
    funext r
    simp [Row.isAt]
  rw [inRows, holds, List.find?_map]
  congr 2
  funext d
  rw [Function.comp_apply, Bool.eq_iff_iff, isAt_rowOf, decide_eq_true_iff]

end Holds

/-- The document of some body as a table gives it back. -/
def givenBack [FloatReader] (collection id : String) (data : Object) :
    Except StoreError Snapshot :=
  (readBack? data).elim (.error (.invalidDocument collection id .malformed)) (.ok ⟨id, ·⟩)

theorem readAs_rowOf [FloatReader] {d : Snapshot} (canonical : (Value.object d.data).Canonical)
    (collection id : String) :
    readAs id (rowOf collection d) = givenBack collection id d.data := by
  rw [readAs, rowOf, columnText_encodeDocument, parseDocument_encodeDocument _ _ canonical,
    givenBack]
  cases readBack? d.data <;> rfl

theorem givenBack_of_storable [FloatReader] {data : Object} (storable : Storable data)
    (collection id : String) : givenBack collection id data = .ok ⟨id, data⟩ := by
  rw [givenBack, storable.readBack?_eq]
  rfl

end TableStore

/-- A request to a store. -/
inductive StoreRequest where
  | commit (batch : Batch)
  | list (collection : String)
  | find (collection id : String)

inductive StoreAnswer where
  | done
  | listing (documents : List Snapshot)
  | found (document : Option Snapshot)

namespace StoreRequest

section Serve

variable {σ : Type} [DocumentStore σ]

def serve : StoreRequest → Action σ StoreError StoreAnswer
  | .commit batch => do
    DocumentStore.commit batch
    return .done
  | .list collection => return .listing (← DocumentStore.list collection)
  | .find collection id => return .found (← DocumentStore.find collection id)

/-- The answers to requests that are made one after another, refusals among them. -/
def answers : List StoreRequest → σ → List (Except StoreError StoreAnswer)
  | [], _ => []
  | r :: rest, s =>
    let (answer, s') := r.serve.run s
    answer :: answers rest s'

end Serve

/-- What becomes of an answer when the documents in it are read from a table. -/
def inTable [FloatReader] : StoreRequest → StoreAnswer → Except StoreError StoreAnswer
  | .list collection, .listing documents =>
    (documents.mapM fun d =>
      TableStore.givenBack collection (TableStore.columnText d.id) d.data).map .listing
  | .find collection id, .found (some d) =>
    (TableStore.givenBack collection id d.data).map fun d => .found (some d)
  | _, answer => .ok answer

/-- Every body that a request brings has its members in order. -/
def IsCanonical : StoreRequest → Prop
  | .commit batch => ∀ w ∈ batch.writes, ∀ data ∈ w.body?, (Value.object data).Canonical
  | _ => True

/-- No id that a request sets has a null character, and every body that it brings is read back. -/
def IsPlain [FloatReader] : StoreRequest → Prop
  | .commit batch => (∀ id data, .set id data ∈ batch.writes → '\x00' ∉ id.toList) ∧
      ∀ w ∈ batch.writes, ∀ data ∈ w.body?, Storable data
  | _ => True

/-- A store in memory and a table with the same documents. -/
structure Alike (m : MemoryStore) (t : TableStore) : Prop where
  holds : ∀ c, TableStore.Holds c t.rows (m.collections.documents c)
  unique : ∀ c, UniqueIds (m.collections.documents c)
  canonical : ∀ c, ∀ d ∈ m.collections.documents c, (Value.object d.data).Canonical

/-- The table answers as memory does, but for reading the documents, and the stores are alike
afterwards. -/
def ServedAlike [FloatReader] (r : StoreRequest) (m : MemoryStore) (t : TableStore) : Prop :=
  ∃ answer m' t', r.serve.run m = (answer, m') ∧
    r.serve.run t = (answer >>= r.inTable, t') ∧ Alike m' t'

namespace Alike

variable {m : MemoryStore} {t : TableStore}

theorem empty (ids ids' : IdSource) : Alike { ids } { ids := ids' } where
  holds _ := rfl
  unique _ := List.nodup_nil
  canonical _ _ := nofun

/-- Other documents in one collection, and the others left as they are. -/
theorem put (alike : Alike m t) {collection : String} {documents : List Snapshot} {rows : List Row}
    (holds : TableStore.Holds collection rows documents) (unique : UniqueIds documents)
    (canonical : ∀ d ∈ documents, (Value.object d.data).Canonical)
    (others : ∀ c, c ≠ collection → TableStore.rowsOf c rows = TableStore.rowsOf c t.rows)
    (reads commits : Nat) (ids ids' : IdSource) :
    Alike ⟨m.collections.put collection documents, reads, commits, ids⟩ ⟨rows, ids'⟩ := by
  refine ⟨fun c => ?_, fun c => ?_, fun c => ?_⟩
  all_goals by_cases same : c = collection
  · rw [same, Collections.documents_put_self]
    exact holds
  · rw [Collections.documents_put_of_ne same, TableStore.Holds, others c same]
    exact alike.holds c
  · rwa [same, Collections.documents_put_self]
  · rw [Collections.documents_put_of_ne same]
    exact alike.unique c
  · rwa [same, Collections.documents_put_self]
  · rw [Collections.documents_put_of_ne same]
    exact alike.canonical c

theorem commit [FloatReader] (alike : Alike m t) {batch : Batch}
    (canonical : (StoreRequest.commit batch).IsCanonical) : ServedAlike (.commit batch) m t := by
  have unique := alike.unique batch.collection
  rw [ServedAlike, serve, serve, run_bind_pure, run_bind_pure, MemoryStore.commit_run,
    TableStore.commit_run]
  unfold Collections.commit MemoryStore.stage
  rcases (alike.holds batch.collection).foldlM unique batch.writes with
    ⟨documents, rows, staged, applied, holds⟩ | ⟨refusal, staged, applied⟩
  · have written := MemoryStore.Written.of_foldlM unique staged
    have ordered : ∀ d ∈ documents, (Value.object d.data).Canonical := by
      intro d member
      rcases written.mem member with old | ⟨w, inBatch, -, body⟩
      · exact alike.canonical batch.collection d old
      · exact canonical w inBatch d.data body
    rw [staged, applied]
    exact ⟨_, _, _, rfl, rfl, alike.put holds written.unique ordered
      (fun c other => TableStore.rowsOf_foldlM_of_ne other applied) _ _ _ _⟩
  · rw [staged, applied]
    exact ⟨_, _, _, rfl, rfl, alike⟩

theorem list [FloatReader] (alike : Alike m t) (collection : String) :
    ServedAlike (.list collection) m t := by
  have read : (TableStore.rowsOf collection t.rows).mapM TableStore.readRow =
      (m.collections.documents collection).mapM fun d =>
        TableStore.givenBack collection (TableStore.columnText d.id) d.data := by
    rw [alike.holds collection, List.mapM_map]
    refine Except.mapM_congr fun d member => ?_
    rw [Function.comp_apply, TableStore.readRow, rowOf_id,
      TableStore.readAs_rowOf (alike.canonical collection d member)]
  rw [ServedAlike, serve, serve, run_bind_pure, run_bind_pure, MemoryStore.list_run,
    TableStore.list_run, read]
  exact ⟨_, _, _, rfl, rfl, alike.holds, alike.unique, alike.canonical⟩

theorem find [FloatReader] (alike : Alike m t) (collection id : String) :
    ServedAlike (.find collection id) m t := by
  rw [ServedAlike, serve, serve, run_bind_pure, run_bind_pure, MemoryStore.find_run,
    TableStore.find_run, (alike.holds collection).find?]
  refine ⟨_, _, _, rfl, ?_, alike.holds, alike.unique, alike.canonical⟩
  cases found : (m.collections.documents collection).find? (·.id = id) with
  | none => rfl
  | some d =>
    have canonical := alike.canonical collection d (List.mem_of_find?_eq_some found)
    rw [Option.map_some]
    dsimp only
    rw [TableStore.readAs_rowOf canonical]
    cases read : TableStore.givenBack collection id d.data <;>
      simp [inTable, read, Except.map, bind, Except.bind]

theorem serve [FloatReader] (alike : Alike m t) {r : StoreRequest} (canonical : r.IsCanonical) :
    ServedAlike r m t := by
  cases r with
  | commit batch => exact alike.commit canonical
  | list collection => exact alike.list collection
  | find collection id => exact alike.find collection id

/-- Requests that bring bodies with their members in order are answered alike. -/
theorem answers_eq [FloatReader] (alike : Alike m t) {rs : List StoreRequest}
    (canonical : ∀ r ∈ rs, r.IsCanonical) :
    answers rs t = List.zipWith (fun r answer => answer >>= r.inTable) rs (answers rs m) := by
  induction rs generalizing m t with
  | nil => rfl
  | cons r rs ih =>
    obtain ⟨first, rest⟩ := List.forall_mem_cons.mp canonical
    obtain ⟨answer, m', t', inMemory, inTable, after⟩ := alike.serve first
    rw [answers, answers, inMemory, inTable]
    exact congrArg (_ :: ·) (ih after rest)

end Alike

/-- A store in memory whose documents a table would give back. -/
structure Tidy [FloatReader] (m : MemoryStore) : Prop where
  unique : ∀ c, UniqueIds (m.collections.documents c)
  plain : ∀ c, ∀ d ∈ m.collections.documents c, '\x00' ∉ d.id.toList
  storable : ∀ c, ∀ d ∈ m.collections.documents c, Storable d.data

namespace Tidy

variable [FloatReader] {m : MemoryStore}

theorem empty (ids : IdSource) : Tidy { ids } where
  unique _ := List.nodup_nil
  plain _ _ := nofun
  storable _ _ := nofun

theorem commit (tidy : Tidy m) {batch : Batch} (plain : (StoreRequest.commit batch).IsPlain) :
    Tidy ((DocumentStore.commit batch).run m).2 := by
  rcases MemoryStore.commit_cases (tidy.unique batch.collection) with
    ⟨next, taken, -, written, others⟩ | ⟨_, _, _, _, _, _, _, refused⟩
  · rw [taken]
    refine ⟨fun c => ?_, fun c => ?_, fun c => ?_⟩
    all_goals by_cases same : c = batch.collection
    · rw [same]
      exact written.unique
    · rw [others c same]
      exact tidy.unique c
    · rw [same]
      intro d member
      rcases written.mem_ids (List.mem_map_of_mem member) with old | ⟨data, inBatch⟩
      · obtain ⟨e, inOld, named⟩ := List.mem_map.mp old
        rw [← named]
        exact tidy.plain batch.collection e inOld
      · exact plain.1 d.id data inBatch
    · rw [others c same]
      exact tidy.plain c
    · rw [same]
      intro d member
      rcases written.mem member with old | ⟨w, inBatch, -, body⟩
      · exact tidy.storable batch.collection d old
      · exact plain.2 w inBatch d.data body
    · rw [others c same]
      exact tidy.storable c
  · rw [refused]
    exact tidy

theorem serve (tidy : Tidy m) {r : StoreRequest} (plain : r.IsPlain) :
    ((r.serve.run m).1 >>= r.inTable) = (r.serve.run m).1 ∧ Tidy (r.serve.run m).2 := by
  cases r with
  | commit batch =>
    rw [StoreRequest.serve, run_bind_pure]
    refine ⟨?_, tidy.commit plain⟩
    cases ((DocumentStore.commit batch).run m).1 <;> rfl
  | list collection =>
    rw [StoreRequest.serve, run_bind_pure, MemoryStore.list_run]
    refine ⟨?_, tidy.unique, tidy.plain, tidy.storable⟩
    refine Except.map_eq_ok_iff.mpr ⟨_, Except.mapM_eq_ok_iff.mpr ?_, rfl⟩
    rw [List.forall₂_same]
    intro d member
    rw [TableStore.columnText_eq_self (tidy.plain collection d member),
      TableStore.givenBack_of_storable (tidy.storable collection d member)]
  | find collection id =>
    rw [StoreRequest.serve, run_bind_pure, MemoryStore.find_run]
    refine ⟨?_, tidy.unique, tidy.plain, tidy.storable⟩
    cases found : (m.collections.documents collection).find? (·.id = id) with
    | none => rfl
    | some d =>
      have named : d.id = id := by simpa using List.find?_some found
      have storable := tidy.storable collection d (List.mem_of_find?_eq_some found)
      refine Except.map_eq_ok_iff.mpr ⟨d, ?_, rfl⟩
      rw [TableStore.givenBack_of_storable storable, ← named]

theorem answers_eq (tidy : Tidy m) {rs : List StoreRequest} (plain : ∀ r ∈ rs, r.IsPlain) :
    List.zipWith (fun r answer => answer >>= r.inTable) rs (answers rs m) = answers rs m := by
  induction rs generalizing m with
  | nil => rfl
  | cons r rs ih =>
    obtain ⟨first, rest⟩ := List.forall_mem_cons.mp plain
    obtain ⟨here, after⟩ := tidy.serve first
    rw [answers, List.zipWith_cons_cons, here, ih after rest]

end Tidy

/-- Two empty stores answer every sequence of requests alike, but that the table reads the documents
of its answers from their columns. Where no id with a null character is set, and every body is read
back as it is, the answers are the same. -/
theorem answers_interchangeable [FloatReader] (ids ids' : IdSource) {rs : List StoreRequest}
    (canonical : ∀ r ∈ rs, r.IsCanonical) :
    answers rs ({ ids } : TableStore) =
        List.zipWith (fun r answer => answer >>= r.inTable) rs
          (answers rs ({ ids := ids' } : MemoryStore)) ∧
      ((∀ r ∈ rs, r.IsPlain) →
        answers rs ({ ids } : TableStore) = answers rs ({ ids := ids' } : MemoryStore)) := by
  have alike := (Alike.empty ids' ids).answers_eq canonical
  refine ⟨alike, fun plain => ?_⟩
  rw [alike, (Tidy.empty ids').answers_eq plain]

end StoreRequest

namespace Sample

attribute [local instance] FloatReader.exact

/-- An id with a null character, which a listing of the table gives back cut short. -/
def cut : List StoreRequest := [.commit ⟨"parts", [.set "a\x00b" []]⟩, .list "parts"]

theorem not_interchangeable :
    ¬ ∀ rs : List StoreRequest, (∀ r ∈ rs, r.IsCanonical) →
      StoreRequest.answers rs ({ ids := ⟨0⟩ } : TableStore) =
        StoreRequest.answers rs ({ ids := ⟨0⟩ } : MemoryStore) := by
  intro same
  have canonical : ∀ r ∈ cut, r.IsCanonical := by
    have body : (Value.object []).Canonical := ⟨List.Pairwise.nil, trivial⟩
    simp [cut, StoreRequest.IsCanonical, Write.body?, body]
  have equal := same cut canonical
  rw [(StoreRequest.Alike.empty ⟨0⟩ ⟨0⟩).answers_eq canonical] at equal
  have inMemory : StoreRequest.answers cut ({ ids := ⟨0⟩ } : MemoryStore) =
    [.ok .done, .ok (.listing [⟨"a\x00b", []⟩])] := rfl
  have shortened : TableStore.columnText "a\x00b" = "a" := by decide
  have storable : Storable [] := ⟨⟨List.Pairwise.nil, trivial⟩, by decide, rfl⟩
  have given := TableStore.givenBack_of_storable storable "parts" "a"
  rw [inMemory] at equal
  simp [cut, StoreRequest.inTable, shortened, given, bind, Except.bind, Except.map, pure,
    Except.pure] at equal

/-- Sets two parts, updates a third in vain, moves the first behind the second, and lists them. -/
def stockroom : List StoreRequest :=
  [.commit ⟨"parts", [.set "bolt" [("size", .number (.ofNat 8))], .set "nut" []]⟩,
    .commit ⟨"parts", [.delete "nut", .update "washer" []]⟩,
    .commit ⟨"parts", [.delete "bolt", .set "bolt" [("tags", .array [.string "m8", .null])]]⟩,
    .list "parts", .find "parts" "nut"]

theorem answers_of_stockroom :
    StoreRequest.answers stockroom ({ ids := ⟨0⟩ } : TableStore) =
      [.ok .done, .error (.notFound "parts" "washer"), .ok .done,
        .ok (.listing [⟨"nut", []⟩, ⟨"bolt", [("tags", .array [.string "m8", .null])]⟩]),
        .ok (.found (some ⟨"nut", []⟩))] := by
  have steady := Value.steady_of_faithful FloatReader.faithful_exact
  have empty : Storable [] := ⟨⟨List.Pairwise.nil, trivial⟩, by decide, steady _⟩
  have size : Storable [("size", .number (.ofNat 8))] :=
    ⟨⟨List.pairwise_singleton .., trivial, trivial⟩, by decide, steady _⟩
  have tags : Storable [("tags", .array [.string "m8", .null])] :=
    ⟨⟨List.pairwise_singleton .., ⟨trivial, trivial, trivial⟩, trivial⟩, by decide, steady _⟩
  have canonical : ∀ r ∈ stockroom, r.IsCanonical := by
    simp [stockroom, StoreRequest.IsCanonical, Write.body?, empty.canonical, size.canonical,
      tags.canonical]
  have plain : ∀ r ∈ stockroom, r.IsPlain := by
    simp [stockroom, StoreRequest.IsPlain, Write.body?, empty, size, tags]
    rintro id data (⟨rfl, -⟩ | ⟨rfl, -⟩) <;> decide
  rw [(StoreRequest.answers_interchangeable ⟨0⟩ ⟨0⟩ canonical).2 plain]
  rfl

end Sample

end DocumentMigration
