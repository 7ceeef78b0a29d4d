import DocumentMigration.Proofs.Store.Backed

/-! Any batch on the store in memory: which batches it takes, and what becomes of each document. The
writes of a batch may name a document any number of times; the last of them decides. -/
namespace DocumentMigration

open Json DocumentMigration.Action

namespace Write

/-- The body that a write leaves, if it leaves the document there. -/
def body? : Write → Option Object
  | .set _ data | .update _ data => some data
  | .delete _ => none

def isSet : Write → Bool
  | .set _ _ => true
  | _ => false

def deletes (id : String) : Write → Bool
  | .delete other => other = id
  | _ => false

end Write

/-- The body of a document in a listing. -/
def bodyOf (id : String) (documents : List Snapshot) : Option Object :=
  (documents.find? (·.id = id)).map (·.data)

/-- The last write to a document. -/
def lastWrite (id : String) (writes : List Write) : Option Write :=
  writes.reverse.find? (·.id = id)

/-- The body that a document has after some writes. -/
def bodyAfter (id : String) (writes : List Write) (documents : List Snapshot) : Option Object :=
  match lastWrite id writes with
  | some w => w.body?
  | none => bodyOf id documents

/-- Whether a document is there once some writes have been performed: the last of them that names it
decides, or else whether it was stored. -/
def Live (documents : List Snapshot) (before : List Write) (id : String) : Prop :=
  match lastWrite id before with
  | some (.delete _) => False
  | some _ => True
  | none => id ∈ documents.map (·.id)

instance (documents : List Snapshot) (before : List Write) (id : String) :
    Decidable (Live documents before id) := by
  unfold Live
  exact match lastWrite id before with
    | some (.delete _) => inferInstanceAs (Decidable False)
    | some (.set _ _) | some (.update _ _) => inferInstanceAs (Decidable True)
    | none => inferInstanceAs (Decidable (_ ∈ _))

/-- Every update finds its document. -/
def UpdatesLive (documents : List Snapshot) (writes : List Write) : Prop :=
  ∀ before id data after, writes = before ++ .update id data :: after → Live documents before id

/-- The ids that the writes after `before` insert, in that order, without those that are deleted
later on. -/
def insertions (documents : List Snapshot) (before : List Write) : List Write → List String
  | [] => []
  | w :: rest =>
    let later := insertions documents (before ++ [w]) rest
    if w.isSet ∧ ¬ Live documents before w.id ∧ ¬ rest.any (·.deletes w.id) then w.id :: later
    else later

/-- The ids of the documents that no write deletes. -/
def undeleted (documents : List Snapshot) (writes : List Write) : List String :=
  (documents.map (·.id)).filter fun id => !writes.any (·.deletes id)

section Reading

variable {id other : String} {writes : List Write} {w : Write} {documents : List Snapshot}

@[simp] theorem bodyOf_nil : bodyOf id [] = none := rfl

theorem bodyOf_cons (d : Snapshot) : bodyOf id (d :: documents) =
    if d.id = id then some d.data else bodyOf id documents := by
  by_cases named : d.id = id <;> simp [bodyOf, named]

theorem isSome_bodyOf : (bodyOf id documents).isSome ↔ id ∈ documents.map (·.id) := by
  induction documents with
  | nil => simp
  | cons d documents ih =>
    rw [bodyOf_cons]
    by_cases named : d.id = id
    · simp [named]
    · simp [named, ih, Ne.symm named]

theorem bodyOf_append (d : Snapshot) : bodyOf id (documents ++ [d]) =
    (bodyOf id documents).or (if d.id = id then some d.data else none) := by
  induction documents with
  | nil => simp [bodyOf_cons]
  | cons e documents ih =>
    rw [List.cons_append, bodyOf_cons, bodyOf_cons, ih]
    by_cases named : e.id = id <;> simp [named]

theorem mem_of_bodyOf {data : Object} (found : bodyOf id documents = some data) :
    ⟨id, data⟩ ∈ documents := by
  obtain ⟨d, first, rfl⟩ := Option.map_eq_some_iff.mp found
  have named : d.id = id := by simpa using List.find?_some first
  rw [← named]
  exact List.mem_of_find?_eq_some first

theorem bodyOf_of_mem {d : Snapshot} (unique : UniqueIds documents) (member : d ∈ documents) :
    bodyOf d.id documents = some d.data := by
  induction documents with
  | nil => cases member
  | cons e documents ih =>
    obtain ⟨fresh, unique⟩ := List.nodup_cons.mp unique
    rw [bodyOf_cons]
    rcases List.mem_cons.mp member with rfl | later
    · exact if_pos rfl
    · have other : e.id ≠ d.id := fun same => fresh (List.mem_map.mpr ⟨d, later, same.symm⟩)
      rw [if_neg other, ih unique later]

theorem mem_of_lastWrite (last : lastWrite id writes = some w) : w ∈ writes ∧ w.id = id :=
  ⟨List.mem_reverse.mp (List.mem_of_find?_eq_some last), by simpa using List.find?_some last⟩

theorem exists_set_of_mem_insertions {before : List Write}
    (inserted : id ∈ insertions documents before writes) : ∃ data, .set id data ∈ writes := by
  induction writes generalizing before with
  | nil => cases inserted
  | cons w writes ih =>
    rw [insertions] at inserted
    have later (inLater : id ∈ insertions documents (before ++ [w]) writes) :
        ∃ data, .set id data ∈ w :: writes := by
      obtain ⟨data, member⟩ := ih inLater
      exact ⟨data, List.mem_cons_of_mem w member⟩
    split at inserted
    · next inserts =>
      rcases List.mem_cons.mp inserted with rfl | inLater
      · cases w with
        | set id data => exact ⟨data, List.mem_cons_self⟩
        | _ => cases inserts.1
      · exact later inLater
    · exact later inserted

theorem lastWrite_append : lastWrite id (writes ++ [w]) =
    if w.id = id then some w else lastWrite id writes := by
  by_cases named : w.id = id <;> simp [lastWrite, named]

theorem bodyAfter_append : bodyAfter id (writes ++ [w]) documents =
    if w.id = id then w.body? else bodyAfter id writes documents := by
  unfold bodyAfter
  rw [lastWrite_append]
  by_cases named : w.id = id <;> simp [named]

theorem live_iff_isSome : Live documents writes id ↔ (bodyAfter id writes documents).isSome := by
  unfold Live bodyAfter
  rcases lastWrite id writes with _ | ⟨_⟩ | ⟨_⟩ | ⟨_⟩
  · exact isSome_bodyOf.symm
  all_goals simp [Write.body?]

theorem undeleted_append : undeleted documents (writes ++ [w]) =
    (undeleted documents writes).filter fun id => !w.deletes id := by
  simp only [undeleted, List.filter_filter, List.any_append, Bool.not_or]
  refine List.filter_congr fun id _ => ?_
  simp [Bool.and_comm]

theorem insertions_append (before : List Write) : insertions documents before (writes ++ [w]) =
    ((insertions documents before writes).filter fun id => !w.deletes id) ++
      if w.isSet ∧ ¬ Live documents (before ++ writes) w.id then [w.id] else [] := by
  induction writes generalizing before with
  | nil => simp [insertions]
  | cons v writes ih =>
    rw [List.cons_append, insertions, insertions, ih]
    simp only [List.append_assoc, List.singleton_append, List.any_append]
    by_cases inserts : v.isSet ∧ ¬ Live documents before v.id ∧ ¬ writes.any (·.deletes v.id)
    · rw [if_pos inserts]
      by_cases gone : w.deletes v.id <;> simp [inserts, gone]
    · rw [if_neg inserts, if_neg]
      intro both
      refine inserts ⟨both.1, both.2.1, fun deleted => both.2.2 ?_⟩
      rw [deleted, Bool.true_or]

end Reading

theorem UpdatesLive.append {documents : List Snapshot} {writes : List Write} {w : Write}
    (live : UpdatesLive documents writes)
    (last : ∀ id data, w = .update id data → Live documents writes id) :
    UpdatesLive documents (writes ++ [w]) := by
  intro before id data after split
  rcases after.eq_nil_or_concat with rfl | ⟨rest, v, rfl⟩
  · obtain ⟨rfl, same⟩ := List.append_inj' split rfl
    exact last id data (List.cons.inj same).1
  · rw [List.concat_eq_append, ← List.cons_append, ← List.append_assoc] at split
    exact live before id data rest (List.append_inj' split rfl).1

namespace MemoryStore

variable {documents documents' : List Snapshot} {id other collection : String} {data : Object}
variable {writes : List Write} {w : Write}

theorem replace?_eq_none_iff : replace? id data documents = none ↔ id ∉ documents.map (·.id) := by
  induction documents with
  | nil => simp [replace?]
  | cons d documents ih =>
    by_cases named : d.id = id
    · simp [replace?, named]
    · rw [replace?, if_neg named, Option.map_eq_none_iff, ih]
      simp [Ne.symm named]

/-- Setting a document that is not there adds it as the last one. -/
theorem stage_set (fresh : id ∉ documents.map (·.id)) (data : Object) :
    stage ⟨collection, [.set id data]⟩ documents = .ok (documents ++ [⟨id, data⟩]) := by
  have absent : replace? id data documents = none := replace?_eq_none_iff.mpr fresh
  show (stageOne collection documents (.set id data) >>= fun next => pure next) = _
  rw [stageOne, absent]
  rfl

/-- Replacing a body changes no id. -/
theorem map_id_replace? (replaced : replace? id data documents = some documents') :
    documents'.map (·.id) = documents.map (·.id) := by
  induction documents generalizing documents' with
  | nil => simp [replace?] at replaced
  | cons d documents ih =>
    by_cases named : d.id = id
    · rw [replace?, if_pos named, Option.some.injEq] at replaced
      rw [← replaced]
      rfl
    · rw [replace?, if_neg named] at replaced
      obtain ⟨rest, later, rfl⟩ := Option.map_eq_some_iff.mp replaced
      simp [ih later]

theorem bodyOf_replace? (replaced : replace? id data documents = some documents') :
    bodyOf other documents' = if id = other then some data else bodyOf other documents := by
  induction documents generalizing documents' with
  | nil => simp [replace?] at replaced
  | cons d documents ih =>
    by_cases named : d.id = id
    · rw [replace?, if_pos named, Option.some.injEq] at replaced
      subst named
      rw [← replaced, bodyOf_cons, bodyOf_cons]
      by_cases same : d.id = other <;> simp [same]
    · rw [replace?, if_neg named] at replaced
      obtain ⟨rest, later, rfl⟩ := Option.map_eq_some_iff.mp replaced
      rw [bodyOf_cons, bodyOf_cons, ih later]
      by_cases same : id = other
      · subst same
        simp [named]
      · simp [same]

theorem map_id_remove : (remove id documents).map (·.id) = (documents.map (·.id)).erase id := by
  induction documents with
  | nil => rfl
  | cons d documents ih =>
    by_cases named : d.id = id
    · simp [remove, named]
    · have other : (d.id == id) = false := by simpa using named
      simp [remove, named, ih]

theorem bodyOf_remove (unique : UniqueIds documents) :
    bodyOf other (remove id documents) = if id = other then none else bodyOf other documents := by
  induction documents with
  | nil => simp [remove]
  | cons d documents ih =>
    obtain ⟨fresh, unique⟩ := List.nodup_cons.mp unique
    by_cases named : d.id = id
    · rw [remove, if_pos named, bodyOf_cons]
      subst named
      by_cases same : d.id = other
      · subst same
        have gone : bodyOf d.id documents = none := by
          rw [← Option.not_isSome_iff_eq_none, isSome_bodyOf]
          exact fresh
        simp [gone]
      · simp [same]
    · rw [remove, if_neg named, bodyOf_cons, bodyOf_cons, ih unique]
      by_cases same : id = other
      · subst same
        simp [named]
      · simp [same]

/-- What some writes have made of a collection. -/
structure Written (documents : List Snapshot) (writes : List Write) (documents' : List Snapshot) :
    Prop where
  unique : UniqueIds documents'
  body : ∀ id, bodyOf id documents' = bodyAfter id writes documents
  order : documents'.map (·.id) =
    undeleted documents writes ++ insertions documents [] writes
  live : UpdatesLive documents writes

theorem Written.live_iff (written : Written documents writes documents') :
    Live documents writes id ↔ id ∈ documents'.map (·.id) := by
  rw [live_iff_isSome, ← written.body, isSome_bodyOf]

theorem Written.nil (unique : UniqueIds documents) : Written documents [] documents where
  unique := unique
  body _ := rfl
  order := by simp [undeleted, insertions]
  live before id data after split := by simp at split

section Step

variable {next : List Snapshot}

/-- A write with a body to a document that is there replaces the body in place. -/
theorem Written.replace (written : Written documents writes documents')
    (leaves : w.body? = some data) (replaced : replace? w.id data documents' = some next) :
    Written documents (writes ++ [w]) next := by
  have present : w.id ∈ documents'.map (·.id) := by
    by_contra absent
    rw [replace?_eq_none_iff.mpr absent] at replaced
    cases replaced
  have alive : Live documents writes w.id := written.live_iff.mpr present
  have stays : ∀ id, w.deletes id = false := by
    intro id
    cases w with
    | delete _ => cases leaves
    | _ => rfl
  refine ⟨?_, fun id => ?_, ?_, written.live.append fun _ _ named => ?_⟩
  · rw [UniqueIds, map_id_replace? replaced]
    exact written.unique
  · rw [bodyOf_replace? replaced, bodyAfter_append, written.body, leaves]
  · rw [map_id_replace? replaced, undeleted_append, insertions_append, written.order]
    simp [stays, alive]
  · rwa [named] at alive

/-- Setting a document that is not there puts it last. -/
theorem Written.insert (written : Written documents writes documents')
    (absent : id ∉ documents'.map (·.id)) (data : Object) :
    Written documents (writes ++ [.set id data]) (documents' ++ [⟨id, data⟩]) := by
  have dead : ¬ Live documents writes id := fun alive => absent (written.live_iff.mp alive)
  refine ⟨?_, fun other => ?_, ?_, written.live.append nofun⟩
  · rw [UniqueIds, List.map_append, List.nodup_append]
    refine ⟨written.unique, by simp, ?_⟩
    rintro other member _ new rfl
    rw [List.map_singleton, List.mem_singleton] at new
    rw [new] at member
    exact absent member
  · rw [bodyOf_append, bodyAfter_append, ← written.body]
    by_cases named : id = other
    · subst named
      have gone : bodyOf id documents' = none := by
        rwa [← Option.not_isSome_iff_eq_none, isSome_bodyOf]
      simp [gone, Write.id, Write.body?]
    · simp [named, Write.id]
  · rw [List.map_append, undeleted_append, insertions_append, written.order]
    simp [Write.deletes, Write.isSet, Write.id, dead]

theorem Written.delete (written : Written documents writes documents') (id : String) :
    Written documents (writes ++ [.delete id]) (remove id documents') := by
  have ids : (remove id documents').map (·.id) = (documents'.map (·.id)).filter (· != id) := by
    rw [map_id_remove, written.unique.erase_eq_filter]
  refine ⟨?_, fun other => ?_, ?_, written.live.append nofun⟩
  · rw [UniqueIds, ids]
    exact written.unique.filter _
  · rw [bodyOf_remove written.unique, bodyAfter_append, written.body]
    rfl
  · have drops : (fun other => !(Write.delete id).deletes other) = (· != id) := by
      funext other
      by_cases named : id = other
      · simp [Write.deletes, named]
      · simp [Write.deletes, named, Ne.symm named]
    rw [ids, undeleted_append, insertions_append, written.order, List.filter_append, drops]
    simp [Write.isSet]

theorem Written.step (written : Written documents writes documents')
    (done : stageOne collection documents' w = .ok next) :
    Written documents (writes ++ [w]) next := by
  cases w with
  | set id data =>
    rw [stageOne, Except.ok.injEq] at done
    cases found : replace? id data documents' with
    | some replaced =>
      rw [found, Option.getD_some] at done
      exact written.replace rfl (done ▸ found)
    | none =>
      rw [found, Option.getD_none] at done
      rw [← done]
      exact written.insert (replace?_eq_none_iff.mp found) data
  | update id data =>
    cases found : replace? id data documents' with
    | some replaced =>
      rw [stageOne, found, Except.ok.injEq] at done
      exact written.replace rfl (done ▸ found)
    | none => simp [stageOne, found] at done
  | delete id =>
    cases done
    exact written.delete id

/-- Only an update fails, and only for a document that is not there. -/
theorem Written.dead (written : Written documents writes documents') {refusal : StoreError}
    (failed : stageOne collection documents' w = .error refusal) :
    ∃ id data, w = .update id data ∧ ¬ Live documents writes id ∧
      refusal = .notFound collection id := by
  cases w with
  | update id data =>
    cases found : replace? id data documents' with
    | some replaced => simp [stageOne, found] at failed
    | none =>
      rw [stageOne, found, Except.error.injEq] at failed
      refine ⟨id, data, rfl, fun alive => ?_, failed.symm⟩
      exact replace?_eq_none_iff.mp found (written.live_iff.mp alive)
  | _ => cases failed

end Step

/-- A batch comes to what its writes make of the documents, or to its first update of a document
that is not there. -/
theorem Written.foldlM (written : Written documents writes documents') (collection : String)
    (rest : List Write) :
    (∃ next, rest.foldlM (stageOne collection) documents' = .ok next ∧
      Written documents (writes ++ rest) next) ∨
    ∃ before id data after, writes ++ rest = before ++ .update id data :: after ∧
      UpdatesLive documents before ∧ ¬ Live documents before id ∧
      rest.foldlM (stageOne collection) documents' = .error (.notFound collection id) := by
  induction rest generalizing writes documents' with
  | nil => exact .inl ⟨documents', rfl, by rwa [List.append_nil]⟩
  | cons w rest ih =>
    rw [List.foldlM_cons]
    cases staged : stageOne collection documents' w with
    | ok next =>
      have later := ih (written.step staged)
      rwa [List.append_assoc, List.singleton_append] at later
    | error refusal =>
      obtain ⟨id, data, rfl, dead, rfl⟩ := written.dead staged
      exact .inr ⟨writes, id, data, rest, rfl, written.live, dead, rfl⟩

theorem Written.of_foldlM (unique : UniqueIds documents)
    (done : writes.foldlM (stageOne collection) documents = .ok documents') :
    Written documents writes documents' := by
  rcases (Written.nil unique).foldlM collection writes with
    ⟨next, reached, written⟩ | ⟨_, _, _, _, _, _, _, failed⟩
  · cases reached.symm.trans done
    exact written
  · cases failed.symm.trans done

/-- A document stood there before, or one of the writes has brought its body. -/
theorem Written.mem (written : Written documents writes documents') {d : Snapshot}
    (member : d ∈ documents') :
    d ∈ documents ∨ ∃ w ∈ writes, w.id = d.id ∧ w.body? = some d.data := by
  have body := written.body d.id
  rw [bodyOf_of_mem written.unique member, bodyAfter] at body
  cases last : lastWrite d.id writes with
  | none =>
    rw [last] at body
    exact .inl (mem_of_bodyOf body.symm)
  | some w =>
    rw [last] at body
    obtain ⟨inWrites, named⟩ := mem_of_lastWrite last
    exact .inr ⟨w, inWrites, named, body.symm⟩

/-- An id was there before, or it has been set. -/
theorem Written.mem_ids (written : Written documents writes documents')
    (member : id ∈ documents'.map (·.id)) :
    id ∈ documents.map (·.id) ∨ ∃ data, .set id data ∈ writes := by
  rw [written.order, List.mem_append] at member
  exact member.imp (fun old => (List.mem_filter.mp old).1) exists_set_of_mem_insertions

/-- The states that a store gets to from an empty one by committing batches, taken or refused. -/
inductive Reached : MemoryStore → Prop where
  | empty (ids : IdSource) : Reached { ids }
  | commit {batch : Batch} {result : Except StoreError Unit} {s s' : MemoryStore} :
      Reached s → (DocumentStore.commit batch).run s = (result, s') → Reached s'

section Commit

variable {s s' : MemoryStore} {batch : Batch}

/-- Either a batch is taken as a whole, or its first update of a document that is not there is the
reason to refuse it. -/
theorem commit_cases (unique : UniqueIds (s.collections.documents batch.collection)) :
    (∃ s', (DocumentStore.commit batch).run s = (.ok (), s') ∧ s'.commits = s.commits + 1 ∧
      Written (s.collections.documents batch.collection) batch.writes
        (s'.collections.documents batch.collection) ∧
      ∀ c, c ≠ batch.collection → s'.collections.documents c = s.collections.documents c) ∨
    ∃ before id data after, batch.writes = before ++ .update id data :: after ∧
      UpdatesLive (s.collections.documents batch.collection) before ∧
      ¬ Live (s.collections.documents batch.collection) before id ∧
      (DocumentStore.commit batch).run s = (.error (.notFound batch.collection id), s) := by
  rw [commit_run]
  unfold Collections.commit stage
  rcases (Written.nil unique).foldlM batch.collection batch.writes with
    ⟨documents, done, written⟩ | ⟨before, id, data, after, split, live, dead, failed⟩
  · refine .inl ⟨⟨s.collections.put batch.collection documents, s.reads, s.commits + 1, s.ids⟩,
      ?_, rfl, ?_, fun c elsewhere => Collections.documents_put_of_ne elsewhere⟩
    · rw [done]
      rfl
    · rwa [Collections.documents_put_self]
  · refine .inr ⟨before, id, data, after, split, live, dead, ?_⟩
    rw [failed]
    rfl

theorem Reached.unique (reached : Reached s) (c : String) :
    UniqueIds (s.collections.documents c) := by
  induction reached generalizing c with
  | empty ids => exact List.nodup_nil
  | @commit batch result s s' _ ended ih =>
    rcases commit_cases (ih batch.collection) with
      ⟨next, taken, _, written, others⟩ | ⟨_, _, _, _, _, _, _, refused⟩
    · obtain ⟨-, rfl⟩ := Prod.mk.inj (taken.symm.trans ended)
      by_cases same : c = batch.collection
      · subst same
        exact written.unique
      · rw [others c same]
        exact ih c
    · obtain ⟨-, rfl⟩ := Prod.mk.inj (refused.symm.trans ended)
      exact ih c

/-- A batch on a store that batches have led to. It is taken just when each of its updates finds its
document. Then each document has the body of its last write, those that no write deletes stand in
their order, and those that were inserted follow in theirs. Otherwise the first update that misses
its document is reported, and the store is as it was. -/
theorem commit_batch (reached : Reached s) (batch : Batch) :
    (∀ c, UniqueIds (s.collections.documents c)) ∧
    ((∃ s', (DocumentStore.commit batch).run s = (.ok (), s')) ↔
      UpdatesLive (s.collections.documents batch.collection) batch.writes) ∧
    (∀ s', (DocumentStore.commit batch).run s = (.ok (), s') →
      s'.commits = s.commits + 1 ∧
      (∀ id, bodyOf id (s'.collections.documents batch.collection) =
        bodyAfter id batch.writes (s.collections.documents batch.collection)) ∧
      (s'.collections.documents batch.collection).map (·.id) =
        undeleted (s.collections.documents batch.collection) batch.writes ++
          insertions (s.collections.documents batch.collection) [] batch.writes ∧
      (∀ c, UniqueIds (s'.collections.documents c)) ∧
      ∀ c, c ≠ batch.collection → s'.collections.documents c = s.collections.documents c) ∧
    ∀ refusal s', (DocumentStore.commit batch).run s = (.error refusal, s') →
      s' = s ∧ ∃ before id data after, batch.writes = before ++ .update id data :: after ∧
        UpdatesLive (s.collections.documents batch.collection) before ∧
        ¬ Live (s.collections.documents batch.collection) before id ∧
        refusal = .notFound batch.collection id := by
  refine ⟨reached.unique, ?_⟩
  rcases commit_cases (reached.unique batch.collection) with
    ⟨next, taken, counted, written, others⟩ | ⟨before, id, data, after, split, live, dead, refused⟩
  · refine ⟨⟨fun _ => written.live, fun _ => ⟨next, taken⟩⟩, fun s' ended => ?_,
      fun refusal s' ended => ?_⟩
    · have unique := (reached.commit ended).unique
      obtain ⟨-, rfl⟩ := Prod.mk.inj (taken.symm.trans ended)
      exact ⟨counted, written.body, written.order, unique, others⟩
    · cases (Prod.mk.inj (taken.symm.trans ended)).1
  · refine ⟨⟨fun ⟨s', ended⟩ => ?_, fun all => (dead (all _ _ _ _ split)).elim⟩,
      fun s' ended => ?_, fun refusal s' ended => ?_⟩
    · cases (Prod.mk.inj (refused.symm.trans ended)).1
    · cases (Prod.mk.inj (refused.symm.trans ended)).1
    · obtain ⟨same, rfl⟩ := Prod.mk.inj (refused.symm.trans ended)
      cases same
      exact ⟨rfl, before, id, data, after, split, live, dead, rfl⟩

end Commit

end MemoryStore

namespace Sample

def shelf : MemoryStore := ⟨[("books", [⟨"b1", []⟩, ⟨"b2", []⟩])], 0, 1, ⟨0⟩⟩

/-- Puts a book down, takes two away and puts one of them back. -/
def reshelving : Batch :=
  ⟨"books", [.set "b3" [], .delete "b1", .delete "b3", .set "b1" [("again", .bool true)],
    .update "b2" []]⟩

def stocking : Batch := ⟨"books", [.set "b1" [], .set "b2" []]⟩

theorem reached_shelf : MemoryStore.Reached shelf := by
  have stocked : (DocumentStore.commit stocking).run ({ ids := ⟨0⟩ } : MemoryStore) =
    (.ok (), shelf) := rfl
  exact (MemoryStore.Reached.empty ⟨0⟩).commit stocked

/-- The book that was put back comes last. -/
theorem commit_batch_of_reshelving :
    ∃ s', (DocumentStore.commit reshelving).run shelf = (.ok (), s') ∧
      (s'.collections.documents "books").map (·.id) = ["b2", "b1"] := by
  obtain ⟨-, -, effect, -⟩ := MemoryStore.commit_batch reached_shelf reshelving
  have order : undeleted (shelf.collections.documents "books") reshelving.writes ++
      insertions (shelf.collections.documents "books") [] reshelving.writes = ["b2", "b1"] := by
    decide
  exact ⟨_, rfl, (effect _ rfl).2.2.1.trans order⟩

end Sample

end DocumentMigration
