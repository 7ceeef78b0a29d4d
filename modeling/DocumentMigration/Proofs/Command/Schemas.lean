import DocumentMigration.Command.Schemas
import DocumentMigration.Proofs.Schema.Files
import DocumentMigration.Proofs.Schema.Infer
import DocumentMigration.Proofs.Schema.Inferred
import DocumentMigration.Proofs.Store.DocumentText
import DocumentMigration.Store.Memory

/-!
The schema that is exported for a collection, and the collection validated against it. The two
commands meet in the file between them, which takes a schema of any depth and gives it back only up
to the nesting limit.
-/
namespace DocumentMigration

open Json DocumentMigration.Action

namespace Work

variable {σ ε α : Type} {d d' : Desk σ}

theorem run_orFail (result : Except SchemaError α) (d : Desk σ) :
    (orFail result).run d = (result.mapError .schemaFailed, d) := rfl

theorem run_onStore (action : Action σ ε α) (error : ε → CommandError) (d : Desk σ) :
    (onStore action error).run d = match action.run d.store with
      | (.ok a, store) => (.ok a, { d with store })
      | (.error e, store) => (.error (error e), { d with store }) := rfl

theorem run_onFiles (action : Action FileTree SchemaError α) (d : Desk σ) :
    (onFiles action).run d = match action.run d.files with
      | (.ok a, files) => (.ok a, { d with files })
      | (.error e, files) => (.error (.schemaFailed e), { d with files }) := rfl

theorem run_documents [DocumentStore σ] {collection : String} {documents : List Snapshot}
    {store : σ} (listed : (DocumentStore.list collection).run d.store = (.ok documents, store)) :
    (Work.documents collection).run d = (.ok documents, { d with store }) := by
  rw [Work.documents, run_onStore, listed]

theorem onFiles_eq_ok {action : Action FileTree SchemaError α} {a : α}
    (done : (onFiles action).run d = (.ok a, d')) :
    ∃ files, action.run d.files = (.ok a, files) ∧ d' = { d with files } := by
  rw [run_onFiles] at done
  rcases ended : action.run d.files with ⟨_ | b, files⟩ <;> rw [ended] at done <;> cases done
  exact ⟨files, rfl, rfl⟩

/-- A note adds to what is printed, and changes nothing else. -/
theorem run_note (manner : Manner) (text : String) (d : Desk σ) :
    ∃ prints, (note manner text).run d = (.ok (), { d with prints }) := by
  unfold note
  split
  · exact ⟨d.prints, rfl⟩
  · exact ⟨d.prints ++ [.aside (text ++ "\n")], rfl⟩

end Work

section Commands

variable {σ : Type} [DocumentStore σ] {d d' : Desk σ} {collection output schemas : String}
  {documents : List Snapshot} {store : σ}

/-- An export that succeeds has written the schema that the documents suggest. -/
theorem exportSchema_eq_ok {e : ExportedSchema}
    (listed : (DocumentStore.list collection).run d.store = (.ok documents, store))
    (done : (exportSchema output collection).run d = (.ok e, d')) :
    ∃ schema files, inferItemSchema collection documents = .ok schema ∧
      (SchemaFiles.write (SchemaFiles.collectionFile d.files output collection) schema).run
        d.files = (.ok (), files) ∧
      e = ⟨collection, documents.length, SchemaFiles.collectionFile d.files output collection⟩ ∧
      d' = { d with store, files } := by
  rw [exportSchema, run_bind, Work.run_documents listed] at done
  dsimp only at done
  rw [run_bind, Work.run_orFail] at done
  rcases inferred : inferItemSchema collection documents with _ | schema <;> rw [inferred] at done
  · cases done
  · obtain ⟨_, _, ⟨⟩, done⟩ := run_bind_eq_ok_iff.mp done
    obtain ⟨⟨⟩, _, wrote, done⟩ := run_bind_eq_ok_iff.mp done
    obtain ⟨files, written, rfl⟩ := Work.onFiles_eq_ok wrote
    cases done
    exact ⟨schema, files, rfl, written, rfl, rfl⟩

theorem exportCollections_singleton {exported : List ExportedSchema}
    (done : (exportCollections [collection] output).run d = (.ok exported, d')) :
    ∃ e, exported = [e] ∧ (exportSchema output collection).run d = (.ok e, d') := by
  obtain ⟨_, _, ⟨⟩, done⟩ := run_bind_eq_ok_iff.mp done
  obtain ⟨⟨⟩, _, ⟨⟩, done⟩ := run_bind_eq_ok_iff.mp done
  obtain ⟨e, rest, _, rfl, first, ⟨⟩⟩ := run_mapM_cons_eq_ok_iff.mp done
  exact ⟨e, rfl, first⟩

/-- A collection that can be listed is validated against what is read from its file. -/
theorem validateOne_run [FloatReader] [Standards] (schemas : String)
    (listed : (DocumentStore.list collection).run d.store = (.ok documents, store)) :
    (validateOne schemas collection).run d =
      ((SchemaFiles.read d.files (SchemaFiles.collectionFile d.files schemas collection)).mapError
          .schemaFailed >>= fun schema =>
        (validateCollection schema documents).mapError (.schemaNotCompiled
            (SchemaFiles.collectionFile d.files schemas collection)) >>= fun violations =>
          .ok (⟨collection, documents.length, violations.length,
            SchemaFiles.collectionFile d.files schemas collection⟩, violations),
        { d with store }) := by
  rw [validateOne, run_bind, Work.run_documents listed]
  dsimp only
  rw [run_bind, run_get]
  dsimp only
  rw [run_bind, run_get]
  dsimp only
  rw [run_bind, Work.run_orFail]
  cases SchemaFiles.read d.files (SchemaFiles.collectionFile d.files schemas collection) with
  | error e => rfl
  | ok schema =>
    simp only [bind, Except.bind, Except.mapError]
    cases validateCollection schema documents <;> rfl

variable {errors : Option String} {summary : Bool} {manner : Manner}

/-- A validation that finds nothing says so, and writes no file of violations into a directory. -/
theorem validateCollections_of_passed [FloatReader] [Standards] {report : CollectionReport}
    (passed : (validateOne schemas collection).run d = (.ok (report, []), d'))
    (folder : ∀ f ∈ errors, d'.files.isDirectory f) :
    ∃ prints, (validateCollections [collection] schemas errors summary manner).run d =
      (.ok ⟨[report], [(collection, [])], []⟩, { d' with prints }) := by
  obtain ⟨prints, noted⟩ := Work.run_note manner
    ("Validation succeeded for collection " ++ collection ++ ".") d'
  have told : (tell manner collection []).run d' = (.ok (), { d' with prints }) := noted
  have one : (do
      let checked ← validateOne schemas collection
      tell manner collection checked.2
      return (checked.1, collection, checked.2)).run d =
        (.ok (report, collection, []), { d' with prints }) :=
    run_bind_eq_ok_iff.mpr ⟨_, d', passed, run_bind_eq_ok_iff.mpr ⟨(), _, told, rfl⟩⟩
  refine ⟨prints, ?_⟩
  unfold validateCollections
  cases errors with
  | none =>
    exact run_bind_eq_ok_iff.mpr ⟨_, _, run_mapM_cons_eq_ok_iff.mpr ⟨_, [], _, rfl, one, rfl⟩, rfl⟩
  | some f =>
    have inside : d'.files.isDirectory f := folder f rfl
    have written : (Work.onFiles (SchemaFiles.writeViolations f [(collection, [])] summary)).run
        { d' with prints } = (.ok [], { d' with prints }) := by
      have unwritten : (SchemaFiles.writeViolations f [(collection, [])] summary).run d'.files =
          (.ok [], d'.files) := by
        rw [SchemaFiles.writeViolations, run_bind, run_get]
        dsimp only
        rw [if_pos inside]
        rfl
      rw [Work.run_onFiles, unwritten]
    refine run_bind_eq_ok_iff.mpr ⟨d, d, rfl, run_bind_eq_ok_iff.mpr ⟨(), d, rfl, ?_⟩⟩
    exact run_bind_eq_ok_iff.mpr ⟨_, _, run_mapM_cons_eq_ok_iff.mpr ⟨_, [], _, rfl, one, rfl⟩,
      run_bind_eq_ok_iff.mpr ⟨[], _, written, rfl⟩⟩

/-- A collection that cannot be validated ends the validation. -/
theorem validateCollections_of_failed [FloatReader] [Standards] {e : CommandError}
    (failed : (validateOne schemas collection).run d = (.error e, d')) :
    (validateCollections [collection] schemas errors summary manner).run d = (.error e, d') := by
  have first : ([collection].mapM fun collection => do
      let checked ← validateOne schemas collection
      tell manner collection checked.2
      return (checked.1, collection, checked.2)).run d = (.error e, d') :=
    run_mapM_cons_eq_error_iff.mpr (.inl (run_bind_eq_error_iff.mpr (.inl failed)))
  unfold validateCollections
  cases errors with
  | none => exact run_bind_eq_error_iff.mpr (.inl first)
  | some f =>
    exact run_bind_eq_error_iff.mpr (.inr ⟨d, d, rfl, run_bind_eq_error_iff.mpr
      (.inr ⟨(), d, rfl, run_bind_eq_error_iff.mpr (.inl first)⟩)⟩)

/-- What is exported, and what a later read of it gives. -/
theorem exported_reads_back [FloatReader] {exported : List ExportedSchema}
    (listed : (DocumentStore.list collection).run d.store = (.ok documents, store))
    (distinct : ∀ s ∈ documents, (Value.object s.data).DistinctKeys)
    (done : (exportCollections [collection] output).run d = (.ok exported, d')) :
    exported = [⟨collection, documents.length,
        SchemaFiles.collectionFile d'.files output collection⟩] ∧
      inferItemSchema collection documents = .ok (Shape.ofDocuments documents).toSchema ∧
      SchemaFiles.read d'.files (SchemaFiles.collectionFile d'.files output collection) =
        if (Shape.ofDocuments documents).toSchema.depth ≤ nestingLimit then
          .ok (Shape.ofDocuments documents).toSchema
        else .error (.malformed (SchemaFiles.collectionFile d'.files output collection)) := by
  obtain ⟨e, rfl, one⟩ := exportCollections_singleton done
  obtain ⟨schema, files, inferred, written, rfl, rfl⟩ := exportSchema_eq_ok listed one
  have present : documents ≠ [] := by
    rintro rfl
    cases inferred
  have shown : inferItemSchema collection documents = _ := if_neg (by simpa using present)
  rw [shown] at inferred
  cases inferred
  have described := Shape.describes_ofDocuments distinct
  have same := SchemaFiles.collectionFile_of_write written
  refine ⟨by rw [same], shown, ?_⟩
  rw [same]
  exact SchemaFiles.read_of_text described.canonical described.steady
    (SchemaFiles.write_eq_ok written).2

/-- The schema of a collection comes back from the file that it is exported to and accepts the
collection, as long as it is at most 127 levels deep; so it is for documents of at most 62 levels.
The file of a deeper one is written and cannot be read. -/
theorem exported_schema_validates [FloatReader] [Standards]
    {exported : List ExportedSchema} {later : Desk σ}
    {unchanged : σ} (listed : (DocumentStore.list collection).run d.store = (.ok documents, store))
    (distinct : ∀ s ∈ documents, (Value.object s.data).DistinctKeys)
    (done : (exportCollections [collection] output).run d = (.ok exported, d'))
    (files : later.files = d'.files)
    (again : (DocumentStore.list collection).run later.store = (.ok documents, unchanged)) :
    ∃ path schema, exported = [⟨collection, documents.length, path⟩] ∧
      inferItemSchema collection documents = .ok schema ∧
      (schema.depth ≤ 127 → SchemaFiles.read later.files path = .ok schema ∧
        ∀ errors summary manner, (∀ f ∈ errors, later.files.isDirectory f) →
          ∃ prints, (validateCollections [collection] output errors summary manner).run later =
            (.ok ⟨[⟨collection, documents.length, 0, path⟩], [(collection, [])], []⟩,
              { later with store := unchanged, prints })) ∧
      (127 < schema.depth → SchemaFiles.read later.files path = .error (.malformed path) ∧
        ∀ errors summary manner,
          (validateCollections [collection] output errors summary manner).run later =
            (.error (.schemaFailed (.malformed path)), { later with store := unchanged })) ∧
      ((∀ s ∈ documents, (Value.object s.data).depth ≤ 62) → schema.depth ≤ 127) := by
  obtain ⟨told, inferred, read⟩ := exported_reads_back listed distinct done
  rw [← files] at told read
  refine ⟨_, _, told, inferred, ?_, ?_, ?_⟩
  · intro shallow
    rw [if_pos (show _ ≤ nestingLimit from shallow)] at read
    refine ⟨read, fun errors summary manner folder => ?_⟩
    have validated := validateOne_run output again
    simp only [read, validateCollection_toSchema distinct, bind, Except.bind, Except.mapError]
      at validated
    exact validateCollections_of_passed validated folder
  · intro deep
    rw [if_neg (show ¬_ ≤ nestingLimit from Nat.not_le_of_lt deep)] at read
    refine ⟨read, fun errors summary manner => ?_⟩
    have stopped := validateOne_run output again
    rw [read] at stopped
    exact validateCollections_of_failed stopped
  · intro shallow
    have within : ∀ v ∈ documents.map fun s => Value.object s.data, v.depth ≤ 62 :=
      List.forall_mem_map.mpr shallow
    exact ((Shape.describes_ofDocuments distinct).depth_le within).trans (by decide)

end Commands

namespace Sample

attribute [local instance] FloatReader.exact Standards.bare

/-- An empty working directory, and a store in memory with one collection. -/
def desk (collection : String) (documents : List Snapshot) : Desk MemoryStore :=
  { files := {}, store := .ofCollection collection documents ⟨0⟩ }

theorem exported_schema_validates_of_visitors :
    ∃ schema d', inferItemSchema "visitors" visitors = .ok schema ∧
      (exportCollections ["visitors"] "visitors.json").run (desk "visitors" visitors) =
        (.ok [⟨"visitors", 2, "visitors.json"⟩], d') ∧
      SchemaFiles.read d'.files "visitors.json" = .ok schema ∧
      ((validateCollections ["visitors"] "visitors.json" none true ⟨.json, false, true, {}⟩).run
        d').1 = .ok ⟨[⟨"visitors", 2, 0, "visitors.json"⟩], [("visitors", [])], []⟩ := by
  have distinct : ∀ d ∈ visitors, (Value.object d.data).DistinctKeys := by
    simp [visitors, Value.DistinctKeys, Value.MembersDistinctKeys, Value.ItemsDistinctKeys,
      Object.keys]
  obtain ⟨d', store, done, again⟩ : ∃ d' store,
      (exportCollections ["visitors"] "visitors.json").run (desk "visitors" visitors) =
        (.ok [⟨"visitors", 2, "visitors.json"⟩], d') ∧
      (DocumentStore.list "visitors").run d'.store = (.ok visitors, store) := ⟨_, _, rfl, rfl⟩
  have listed : (DocumentStore.list "visitors").run (desk "visitors" visitors).store =
    (.ok visitors, _) := rfl
  obtain ⟨path, schema, told, inferred, passes, -, shallow⟩ :=
    exported_schema_validates listed distinct done rfl again
  cases told
  obtain ⟨read, valid⟩ := passes (shallow (by decide))
  obtain ⟨prints, valid⟩ := valid none true ⟨.json, false, true, {}⟩ (by simp)
  exact ⟨schema, d', inferred, done, read, by rw [valid]; rfl⟩

theorem distinctKeys_nested (levels : Nat) : (nested levels).DistinctKeys := by
  induction levels with
  | zero => trivial
  | succ levels ih => exact ⟨List.nodup_singleton _, ih, trivial⟩

theorem depth_schema_nested (levels : Nat) :
    (Shape.observe (nested levels) .blank).toSchema.depth = 2 * levels + 1 := by
  induction levels with
  | zero => rfl
  | succ levels ih =>
    have unfolded : (Shape.observe (nested (levels + 1)) .blank).toSchema =
      .object [("properties", .object [("k", (Shape.observe (nested levels) .blank).toSchema)]),
        ("required", .array [.string "k"]), ("type", .string "object")] := rfl
    rw [unfolded]
    simp [Value.depth, Value.membersDepth, Value.itemsDepth, ih]
    omega

/-- One document of 64 levels. -/
def shaft : Snapshot := ⟨"s1", [("k", nested 63)]⟩

/-- A schema is exported that cannot be read any more, so that the collection it was made for is not
found valid. -/
theorem deepSchema_unreadable :
    ∃ d', (exportCollections ["shafts"] "shafts.json").run (desk "shafts" [shaft]) =
        (.ok [⟨"shafts", 1, "shafts.json"⟩], d') ∧
      ((DocumentStore.list "shafts").run d'.store).1 = .ok [shaft] ∧
      SchemaFiles.read d'.files "shafts.json" = .error (.malformed "shafts.json") ∧
      ((validateCollections ["shafts"] "shafts.json" none false ⟨.json, false, false, {}⟩).run
        d').1 = .error (.schemaFailed (.malformed "shafts.json")) := by
  have distinct : ∀ d ∈ [shaft], (Value.object d.data).DistinctKeys :=
    List.forall_mem_singleton.mpr (distinctKeys_nested 64)
  obtain ⟨d', store, done, again⟩ : ∃ d' store,
      (exportCollections ["shafts"] "shafts.json").run (desk "shafts" [shaft]) =
        (.ok [⟨"shafts", 1, "shafts.json"⟩], d') ∧
      (DocumentStore.list "shafts").run d'.store = (.ok [shaft], store) := ⟨_, _, rfl, rfl⟩
  have listed : (DocumentStore.list "shafts").run (desk "shafts" [shaft]).store =
    (.ok [shaft], _) := rfl
  obtain ⟨told, -, read⟩ := exported_reads_back listed distinct done
  have file : SchemaFiles.collectionFile d'.files "shafts.json" "shafts" = "shafts.json" := by
    simpa using told.symm
  have deep : ¬(Shape.ofDocuments [shaft]).toSchema.depth ≤ nestingLimit := by
    have depth : (Shape.ofDocuments [shaft]).toSchema.depth = 2 * 64 + 1 := depth_schema_nested 64
    rw [depth]
    decide
  rw [if_neg deep] at read
  have stopped := validateOne_run "shafts.json" again
  rw [read] at stopped
  rw [file] at read stopped
  refine ⟨d', done, by rw [again], read, ?_⟩
  rw [validateCollections_of_failed stopped]

end Sample

end DocumentMigration
