import DocumentMigration.Proofs.Migration.Migrate
import DocumentMigration.Proofs.Store.Chunks
import DocumentMigration.Proofs.Store.Identifier
import DocumentMigration.Proofs.Store.Interchange
import DocumentMigration.Proofs.Store.Listings
import DocumentMigration.Proofs.Template.Canonical

/-! A create template adds one document, under an id that was free. Its body is worked out from the
template alone, before the store is asked for anything. -/
namespace DocumentMigration

open Json DocumentMigration.Action

/-- A collection has got one more document under an id that was free. Where it could be listed, it
lists what it listed before and then the new document, read back as `read`. The other collections
answer as they did. -/
structure Adds {σ : Type} [DocumentStore σ] (collection id : String)
    (read : Except StoreError Object) (s s' : σ) : Prop where
  free : ((DocumentStore.find collection id).run s).1 = .ok none
  listing : ∀ documents, listed collection s = .ok documents →
    listed collection s' = read.map fun data => documents ++ [⟨id, data⟩]
  others : ∀ other, other ≠ collection → listed other s' = listed other s

namespace CompiledTemplate

variable {t : CompiledTemplate} {data : Object}

/-- A document has the value of every attribute at its path, unless a later attribute writes to the
same place, above it or below it. -/
def Fills (t : CompiledTemplate) (data : Object) : Prop :=
  ∀ earlier a later, t.attributes = earlier ++ a :: later →
    (∀ b ∈ later, Path.overlap b.path a.path = false) →
    ∃ v, a.Resolves [] v ∧ Path.read? data a.path = some v

/-- The attributes that compiling leaves in a create template. -/
structure Creating (t : CompiledTemplate) : Prop where
  kind : t.operation = .create
  creates : ∀ a ∈ t.attributes, a.operation = .create
  valid : ∀ a ∈ t.attributes, Path.isValid a.path

theorem creating_of_compile {template : Template} (compiles : template.compile = .ok t)
    (create : template.operation = .create) : t.Creating := by
  obtain ⟨keeps, rfl⟩ := Template.compile_eq_ok_iff.mp compiles
  rcases keeps with deletes | ⟨changes, found, valid, creates⟩
  · simp [deletes] at create
  · have attributes : template.compiled.attributes = changes := by
      simp [Template.compiled, Template.attributes, create, found]
    refine ⟨create, ?_, ?_⟩
    · rw [attributes]
      exact creates create
    · rwa [attributes]

/-- No change of a create template is left out of the new document. -/
theorem Creating.newDocument_eq_ok_iff (creating : t.Creating) :
    t.newDocument = .ok data ↔
      ∃ changes, t.evaluate [] = .ok changes ∧ Change.applied changes [] = .ok data := by
  rw [CompiledTemplate.newDocument_eq_ok_iff]
  refine exists_congr fun changes => and_congr_right fun evaluated => ?_
  have all : changes.filter (·.operation = .create) = changes := by
    refine List.filter_eq_self.mpr fun c member => decide_eq_true ?_
    obtain ⟨a, inTemplate, made⟩ := Except.exists_of_mem_mapM evaluated member
    rw [(AttributeTemplate.evaluated_of_evaluate made).operation]
    exact creating.creates a inTemplate
  rw [Change.build, all]

theorem Creating.fills (creating : t.Creating) (made : t.newDocument = .ok data) :
    t.Fills data := by
  obtain ⟨changes, evaluated, applied⟩ := creating.newDocument_eq_ok_iff.mp made
  intro earlier a later split apart
  rw [evaluate, split] at evaluated
  obtain ⟨before, c, after, rfl, here, rest⟩ := Except.mapM_append_cons_eq_ok evaluated
  have change := AttributeTemplate.evaluated_of_evaluate here
  have inTemplate : a ∈ t.attributes := by
    rw [split]
    exact List.mem_append_right _ List.mem_cons_self
  have kind : c.operation ≠ .delete := by
    rw [change.operation, creating.creates a inTemplate]
    exact nofun
  obtain ⟨v, value, resolves⟩ := change.newValue kind
  have valid : Path.isValid c.path := by
    rw [change.path]
    exact creating.valid a inTemplate
  have last : ∀ d ∈ after, Path.overlap d.path c.path = false := by
    intro d member
    obtain ⟨b, inLater, made⟩ := Except.exists_of_mem_mapM rest member
    rw [(AttributeTemplate.evaluated_of_evaluate made).path, change.path]
    exact apart b inLater
  have read := (Change.read?_applied applied valid last).1 kind
  rw [value, change.path, Option.getD_some] at read
  exact ⟨v, resolves, read⟩

section Run

variable {σ : Type} [DocumentStore σ]

/-- A create asks for an id and commits one batch of one write. -/
theorem migrate_of_create (kind : t.operation = .create) (limit : Nat) :
    (t.migrate limit : Action σ MigrationError Outcome) = (do
      let data ← ExceptT.mk (pure t.newDocument)
      let id ← fromStore (DocumentStore.allocate t.collection)
      fromStore (DocumentStore.commit ⟨t.collection, [.set id data]⟩)
      return ⟨t.collection, .create, 1, 1⟩) := by
  unfold migrate staged
  rw [kind]
  simp only [bind_assoc, pure_bind, Batch.chunks_singleton, commitAll, Batch.size]
  rfl

theorem migrate_run_of_created {s next s' : σ} {id : String} (kind : t.operation = .create)
    (limit : Nat) (made : t.newDocument = .ok data)
    (allocated : (DocumentStore.allocate t.collection).run s = (.ok id, next))
    (committed : (DocumentStore.commit ⟨t.collection, [.set id data]⟩).run next = (.ok (), s')) :
    (t.migrate limit).run s = (.ok ⟨t.collection, .create, 1, 1⟩, s') := by
  rw [migrate_of_create kind, run_bind, run_mk_pure, made]
  refine run_bind_eq_ok_iff.mpr ⟨id, next, fromStore_run_eq_ok_iff.mpr allocated, ?_⟩
  exact run_bind_eq_ok_iff.mpr ⟨(), s', fromStore_run_eq_ok_iff.mpr committed, rfl⟩

theorem migrate_run_of_not_made {e : MigrationError} (kind : t.operation = .create) (limit : Nat)
    (failed : t.newDocument = .error e) (s : σ) : (t.migrate limit).run s = (.error e, s) := by
  rw [migrate_of_create kind, run_bind, run_mk_pure, failed]

/-- In a store that keeps its collections apart, a template answers for its own one. -/
theorem listed_migrate_of_ne (apart : KeepsApart σ) {limit : Nat} {other : String} {s s' : σ}
    {result : Except MigrationError Outcome} (elsewhere : other ≠ t.collection)
    (ended : (t.migrate limit).run s = (result, s')) : listed other s' = listed other s := by
  refine Keeps.view_eq (t.keeps_migrate limit ?_ ?_ fun batch named => ?_) ended
  · exact apart.list other t.collection
  · exact apart.allocate other t.collection
  · exact apart.commit (named ▸ elsewhere)

end Run

theorem adds_in_memory (kind : t.operation = .create) (made : t.newDocument = .ok data)
    (limit : Nat) (m : MemoryStore) :
    ∃ id m', (t.migrate limit).run m = (.ok ⟨t.collection, .create, 1, 1⟩, m') ∧
      Adds t.collection id (.ok data) m m' := by
  let documents := m.collections.documents t.collection
  let drawn := m.ids.draw (documents.map (·.id))
  have fresh : drawn.1 ∉ documents.map (·.id) := m.ids.draw_not_mem _
  have staged : (m.collections.commit ⟨t.collection, [.set drawn.1 data]⟩) =
      .ok (m.collections.put t.collection (documents ++ [⟨drawn.1, data⟩])) := by
    rw [Collections.commit, MemoryStore.stage_set fresh]
    rfl
  have committed : (DocumentStore.commit ⟨t.collection, [.set drawn.1 data]⟩).run
      { m with ids := drawn.2 } = _ := MemoryStore.commit_run _ _
  rw [staged] at committed
  have ended := migrate_run_of_created kind limit made (MemoryStore.allocate_run _ m) committed
  refine ⟨drawn.1, _, ended, ?_, ?_, ?_⟩
  · rw [MemoryStore.find_run]
    refine congrArg Except.ok (List.find?_eq_none.mpr fun d member named => fresh ?_)
    exact List.mem_map.mpr ⟨d, member, of_decide_eq_true named⟩
  · intro before read
    cases read
    exact congrArg Except.ok Collections.documents_put_self
  · intro other elsewhere
    exact listed_migrate_of_ne MemoryStore.keepsApart elsewhere ended

theorem adds_in_table [FloatReader] (kind : t.operation = .create) (made : t.newDocument = .ok data)
    (canonical : (Value.object data).Canonical) (limit : Nat) (s : TableStore) :
    ∃ id s', (t.migrate limit).run s = (.ok ⟨t.collection, .create, 1, 1⟩, s') ∧
      Adds t.collection id
        ((readBack? data).elim (.error (.invalidDocument t.collection id .malformed)) .ok)
        s s' := by
  let rows := TableStore.rowsOf t.collection s.rows
  let drawn := s.ids.draw (rows.map (·.id))
  have fresh : drawn.1 ∉ rows.map (·.id) := s.ids.draw_not_mem _
  have committed := TableStore.commit_set_of_free { s with ids := drawn.2 } fresh data
  have ended := migrate_run_of_created kind limit made
    (TableStore.allocate_run _ s) committed
  refine ⟨drawn.1, _, ended, ?_, ?_, ?_⟩
  · have missing : s.rows.find? (TableStore.Row.isAt t.collection drawn.1) = none := by
      refine List.find?_eq_none.mpr fun r member here => fresh ?_
      obtain ⟨inCollection, named⟩ := TableStore.Row.isAt_iff.mp here
      exact List.mem_map.mpr
        ⟨r, List.mem_filter.mpr ⟨member, decide_eq_true inCollection⟩, named⟩
    rw [TableStore.find_run, missing]
  · intro before read
    have last : TableStore.rowsOf t.collection [rowOf t.collection ⟨drawn.1, data⟩] =
        [rowOf t.collection ⟨drawn.1, data⟩] := by
      simp [TableStore.rowsOf]
    have whole : TableStore.columnText drawn.1 = drawn.1 :=
      TableStore.columnText_eq_self (s.ids.null_not_mem_draw _)
    rw [listed, TableStore.list_run] at read ⊢
    dsimp only at read ⊢
    rw [TableStore.rowsOf_append, last, Except.mapM_append_singleton read, TableStore.readRow,
      rowOf_id, whole, TableStore.readAs_rowOf canonical, TableStore.givenBack]
    cases readBack? data <;> rfl
  · intro other elsewhere
    exact listed_migrate_of_ne TableStore.keepsApart elsewhere ended

/-- Creating a document. Whether it fails, and the body it makes, are settled by the attributes at
the empty document; filters and stored documents have no part in it. A failed run leaves any store
as it is. Otherwise the run asks for an id and commits one write: a store in memory then has one
more document, and so has a table, which gives it back as its text is read, though, and not at all
if it is nested too deeply. -/
theorem migrate_create [FloatReader] {template : Template} (compiles : template.compile = .ok t)
    (create : template.operation = .create) :
    (∃ e, t.newDocument = .error e ∧
      ∀ (filter : Option (Object → Bool)) (limit : Nat) (σ : Type) [DocumentStore σ] (s : σ),
        ({ t with filter }.migrate limit).run s = (.error e, s)) ∨
    ∃ data, t.newDocument = .ok data ∧ t.Fills data ∧
      ∀ (filter : Option (Object → Bool)) (limit : Nat),
        (∀ (σ : Type) [DocumentStore σ],
          ({ t with filter }.migrate limit : Action σ MigrationError Outcome) = (do
            let id ← fromStore (DocumentStore.allocate t.collection)
            fromStore (DocumentStore.commit ⟨t.collection, [.set id data]⟩)
            return ⟨t.collection, .create, 1, 1⟩)) ∧
        (∀ m : MemoryStore, ∃ id m',
          ({ t with filter }.migrate limit).run m = (.ok ⟨t.collection, .create, 1, 1⟩, m') ∧
          Adds t.collection id (.ok data) m m') ∧
        (t.WritesCanonical → ∀ s : TableStore, ∃ id s',
          ({ t with filter }.migrate limit).run s = (.ok ⟨t.collection, .create, 1, 1⟩, s') ∧
          Adds t.collection id
            ((readBack? data).elim (.error (.invalidDocument t.collection id .malformed)) .ok)
            s s' ∧
          (Storable data → Adds t.collection id (.ok data) s s')) := by
  have creating := creating_of_compile compiles create
  cases made : t.newDocument with
  | error e =>
    refine .inl ⟨e, rfl, ?_⟩
    intro filter limit σ _ s
    exact migrate_run_of_not_made (t := { t with filter }) creating.kind limit made s
  | ok data =>
    refine .inr ⟨data, rfl, creating.fills made, ?_⟩
    intro filter limit
    have sameBody : ({ t with filter } : CompiledTemplate).newDocument = .ok data := made
    refine ⟨?_, ?_, ?_⟩
    · intro σ _
      rw [migrate_of_create (t := { t with filter }) creating.kind, sameBody]
      rfl
    · exact adds_in_memory (t := { t with filter }) creating.kind sameBody limit
    · intro writes
      have canonical := canonical_newDocument writes made
      intro s
      obtain ⟨id, s', ended, adds⟩ :=
        adds_in_table (t := { t with filter }) creating.kind sameBody canonical limit s
      refine ⟨id, s', ended, adds, fun storable => ?_⟩
      rwa [storable.readBack?_eq] at adds

end CompiledTemplate

namespace Sample

attribute [local instance] FloatReader.exact

def members : MemoryStore :=
  { collections := [("members", [⟨"m1", [("name", .string "Ada")]⟩]), ("notes", [⟨"n1", []⟩])] }

/-- A list, then a third element of it, and a member without a value. No stored document matches. -/
def enrol : Template :=
  { operation := .create, collection := "members", filter := some fun _ => false
    changes := some [
      { path := "profile.tags", operation := .create,
        value := some (.literal (.array [.string "new"])) },
      { path := "profile.tags.+2", operation := .create, value := some (.literal (.bool true)) },
      { path := "role", operation := .create }] }

def enrolled : Object :=
  [("profile", .object [("tags", .array [.string "new", .null, .bool true])]), ("role", .null)]

theorem migrate_create_of_enrol :
    enrol.compiled.Fills enrolled ∧
      ∃ id s, (enrol.compiled.migrate 500).run members = (.ok ⟨"members", .create, 1, 1⟩, s) ∧
        listed "members" s = .ok [⟨"m1", [("name", .string "Ada")]⟩, ⟨id, enrolled⟩] := by
  have compiles : enrol.compile = .ok enrol.compiled := rfl
  have made : enrol.compiled.newDocument = .ok enrolled := rfl
  rcases CompiledTemplate.migrate_create compiles rfl with
    ⟨e, failed, _⟩ | ⟨data, same, fills, runs⟩
  · cases made.symm.trans failed
  · cases made.symm.trans same
    obtain ⟨id, s, ended, adds⟩ := (runs enrol.filter 500).2.1 members
    exact ⟨fills, id, s, ended, adds.listing _ rfl⟩

/-- So many segments, one below the other. -/
def deepPath (levels : Nat) : String := ".".intercalate (List.replicate levels "k")

def burrow : Template :=
  { operation := .create, collection := "users"
    changes := some [{ path := deepPath 128, operation := .create }] }

theorem segments_deepPath (levels : Nat) :
    Path.segments (deepPath (levels + 1)) = List.replicate (levels + 1) "k" := by
  have clear : ∀ l ∈ List.replicate (levels + 1) ['k'], '.' ∉ l := by
    intro l member
    rw [List.eq_of_mem_replicate member]
    decide
  have split := List.splitOn_intercalate '.' clear (by simp)
  rw [Path.segments, deepPath, String.toList_intercalate, List.map_replicate]
  refine (congrArg (List.map String.ofList) split).trans ?_
  rw [List.map_replicate]

theorem isValid_deepPath (levels : Nat) : Path.isValid (deepPath (levels + 1)) := by
  refine List.all_eq_true.mpr fun segment member => ?_
  rw [segments_deepPath] at member
  rw [List.eq_of_mem_replicate member]
  rfl

theorem descend_nested (path : String) (levels : Nat) :
    Change.descend path (Change.setLeaf path "k" .null) (List.replicate levels "k") (.object []) =
      (nested (levels + 1), none) := by
  induction levels with
  | zero => rfl
  | succ levels ih =>
    have start : Change.below "k" (.object []) = .object [] := rfl
    have container : (Value.object []).isContainer = true := rfl
    have place : Change.HasPlace "k" (.object []) := trivial
    rw [List.replicate_succ, Change.descend_cons_of_hasPlace container place, start, ih]
    rfl

/-- Every segment makes an object. -/
theorem applyOne_deepPath (levels : Nat) :
    Change.applyOne ⟨deepPath (levels + 1), .create, none, some .null⟩ (.object []) =
      (nested (levels + 1), none) := by
  have leaf : (Path.segments (deepPath (levels + 1))).getLastD "" = "k" := by
    rw [segments_deepPath, List.getLastD_eq_getLast?, List.getLast?_replicate]
    rfl
  have parents : (Path.segments (deepPath (levels + 1))).dropLast = List.replicate levels "k" := by
    rw [segments_deepPath, List.dropLast_replicate, Nat.add_sub_cancel]
  simp only [Change.applyOne, leaf, parents]
  exact descend_nested (deepPath (levels + 1)) levels

theorem compile_burrow : burrow.compile = .ok burrow.compiled := by
  refine Template.compile_eq_ok_iff.mpr ⟨.inr ⟨_, rfl, ?_, ?_⟩, rfl⟩
  · simpa using isValid_deepPath 127
  · simp

theorem newDocument_burrow : burrow.compiled.newDocument = .ok [("k", nested 127)] := by
  have edited := applyOne_deepPath 127
  refine CompiledTemplate.newDocument_eq_ok_iff.mpr ⟨_, rfl, ?_⟩
  refine Change.applied_eq_ok_iff.mpr ?_
  exact Change.applyAll_cons_eq_iff.mpr ⟨congrArg Prod.snd edited, congrArg (·.1, none) edited⟩

/-- A table takes a document that it cannot read back. -/
theorem create_unreadable :
    ¬ ∀ (template : Template) (t : CompiledTemplate), template.compile = .ok t →
      template.operation = .create → ∀ (limit : Nat) (s : TableStore),
        (∃ e, (t.migrate limit).run s = (.error e, s)) ∨
        ∃ data id s', (t.migrate limit).run s = (.ok ⟨t.collection, .create, 1, 1⟩, s') ∧
          Adds t.collection id (.ok data) s s' := by
  intro claimed
  have canonical : (Value.object [("k", nested 127)]).Canonical := canonical_nested 128
  have deep : 127 < (Value.object [("k", nested 127)]).depth := by
    show 127 < (nested 128).depth
    rw [depth_nested]
    decide
  obtain ⟨id, s, ended, adds⟩ :=
    CompiledTemplate.adds_in_table rfl newDocument_burrow canonical 500 {}
  rw [readBack?_of_deep deep] at adds
  have refused := adds.listing [] rfl
  rcases claimed burrow burrow.compiled compile_burrow rfl 500 {} with
    ⟨e, failed⟩ | ⟨data, other, s', again, read⟩
  · cases ended.symm.trans failed
  · cases ended.symm.trans again
    cases refused.symm.trans (read.listing [] rfl)

end Sample

end DocumentMigration
