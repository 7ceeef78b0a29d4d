import DocumentMigration.Proofs.Command.Schemas
import DocumentMigration.Proofs.Files.Folder
import DocumentMigration.Proofs.Store.Listings

/-!
What a validation leaves in the folder that its violations are written to. A collection in which
violations were found has them in its file. Nothing else is touched: the file of a collection in
which none were found is the one that an earlier validation left there, if any did.
-/
namespace DocumentMigration

open Json DocumentMigration.Action

namespace Location

theorem isPlain_append_json {collection : String} (plain : IsPlain collection) :
    IsPlain (collection ++ ".json") := by
  unfold IsPlain at plain ⊢
  rw [String.toList_append, List.mem_append, not_or]
  exact ⟨plain, by decide⟩

theorem append_json_named (collection : String) : collection ++ ".json" ≠ "" ∧
    collection ++ ".json" ≠ "." ∧ collection ++ ".json" ≠ ".." := by
  have long (short : String) (few : short.length < 5) : collection ++ ".json" ≠ short := by
    rintro rfl
    rw [String.length_append] at few
    have five : ".json".length = 5 := by decide
    omega
  exact ⟨long "" (by decide), long "." (by decide), long ".." (by decide)⟩

end Location

namespace SchemaFiles

variable {t t' : FileTree} {folder collection : String} {place : List String} {v : Value}
  {summary : Bool}

theorem collectionFile_of_holds (holds : t.Holds folder place) :
    collectionFile t folder collection = Location.join folder (collection ++ ".json") :=
  if_pos holds.isDirectory

/-- The file of a collection is written to its place, and nothing else happens. -/
theorem write_collectionFile (holds : t.Holds folder place) (plain : Location.IsPlain collection)
    (done : (write (collectionFile t folder collection) v).run t = (.ok (), t')) :
    t' = t.put (place ++ [collection ++ ".json"]) (.text v.pretty) ∧ t.Extends t' := by
  refine ⟨?_, (write_eq_ok done).1⟩
  rw [collectionFile_of_holds holds] at done
  obtain ⟨⟨⟩, opened, made, written⟩ := run_bind_eq_ok_iff.mp (write_eq_ok_iff.mp done)
  have same := holds.makeParents_join (Location.isPlain_append_json plain)
    (Location.append_json_named collection)
  rw [made] at same
  subst same
  rw [FileTree.writeText, FileTree.run_write] at written
  split at written
  · next target aimed =>
    cases written
    rw [holds.eq_of_target? (Location.isPlain_append_json plain) aimed]
  · cases written

/-- What is left in the folder at a place by those who wrote the violations of some collections. -/
structure Reported (place : List String) (summary : Bool)
    (violations : List (String × List Violation)) (t t' : FileTree) : Prop where
  grown : t.Extends t'
  found : ∀ entry ∈ violations, entry.2 ≠ [] →
    t'.entry? (place ++ [entry.1 ++ ".json"]) = some (.text (report summary entry.2).pretty)
  others : ∀ other, (∀ entry ∈ violations, entry.2 ≠ [] → other ≠ place ++ [entry.1 ++ ".json"]) →
    t'.entry? other = t.entry? other

theorem append_json_inj {collection other : String}
    (same : place ++ [collection ++ ".json"] = place ++ [other ++ ".json"]) :
    collection = other := by
  have names := List.singleton_inj.mp (List.append_cancel_left same)
  exact (String.append_left_inj ".json").mp names

variable {violations : List (String × List Violation)} {found : List Violation}
  {opened : FileTree}

/-- A collection without violations has no part in it. -/
theorem Reported.cons_nil (later : Reported place summary violations t t') :
    Reported place summary ((collection, []) :: violations) t t' where
  grown := later.grown
  found := List.forall_mem_cons.mpr ⟨fun nonempty => (nonempty rfl).elim, later.found⟩
  others other away := later.others other fun entry member =>
    away entry (List.mem_cons_of_mem _ member)

/-- The file of a collection stays as it was written, since the others have files of their own. -/
theorem Reported.cons (nonempty : found ≠ []) (absent : collection ∉ violations.map (·.1))
    (first : opened = t.put (place ++ [collection ++ ".json"])
      (.text (report summary found).pretty))
    (grown : t.Extends opened) (later : Reported place summary violations opened t') :
    Reported place summary ((collection, found) :: violations) t t' where
  grown := grown.trans later.grown
  found := by
    refine List.forall_mem_cons.mpr ⟨fun _ => ?_, later.found⟩
    have own : ∀ entry ∈ violations, entry.2 ≠ [] →
        place ++ [collection ++ ".json"] ≠ place ++ [entry.1 ++ ".json"] := by
      intro entry member _ same
      exact absent (append_json_inj same ▸ List.mem_map_of_mem member)
    rw [later.others _ own, first, FileTree.entry?_put (by simp), if_pos rfl]
  others other away := by
    obtain ⟨elsewhere, away⟩ := List.forall_mem_cons.mp away
    rw [later.others other away, first, FileTree.entry?_put (by simp), if_neg (elsewhere nonempty)]

theorem reported_of_writeEach {written : List String} (holds : t.Holds folder place)
    (plain : ∀ entry ∈ violations, Location.IsPlain entry.1)
    (distinct : (violations.map (·.1)).Nodup)
    (done : (writeEach folder summary violations).run t = (.ok written, t')) :
    Reported place summary violations t t' := by
  induction violations generalizing t written with
  | nil =>
    cases done
    exact ⟨.refl _, nofun, fun _ _ => rfl⟩
  | cons entry violations ih =>
    obtain ⟨collection, found⟩ := entry
    obtain ⟨plainOne, plain⟩ := List.forall_mem_cons.mp plain
    obtain ⟨absent, distinct⟩ := List.nodup_cons.mp distinct
    rw [writeEach] at done
    split at done
    · next empty =>
      rw [List.isEmpty_iff.mp empty]
      exact (ih holds plain distinct done).cons_nil
    · next nonempty =>
      obtain ⟨_, _, ⟨⟩, done⟩ := run_bind_eq_ok_iff.mp done
      obtain ⟨⟨⟩, opened, first, done⟩ := run_bind_eq_ok_iff.mp done
      obtain ⟨rest, _, later, ⟨⟩⟩ := run_bind_eq_ok_iff.mp done
      obtain ⟨put, grown⟩ := write_collectionFile holds plainOne first
      exact .cons (by simpa using nonempty) absent put grown
        (ih (holds.of_extends grown) plain distinct later)

theorem Reported.at?_collectionFile {entry : String × List Violation}
    (reported : Reported place summary violations t t') (holds : t.Holds folder place)
    (plain : ∀ entry ∈ violations, Location.IsPlain entry.1)
    (distinct : (violations.map (·.1)).Nodup) (member : entry ∈ violations) :
    t'.at? (collectionFile t folder entry.1) =
      if entry.2 = [] then t.at? (collectionFile t folder entry.1)
      else some (.text (report summary entry.2).pretty) := by
  have name := Location.isPlain_append_json (plain entry member)
  have named := Location.append_json_named entry.1
  rw [collectionFile_of_holds holds, (holds.of_extends reported.grown).at?_join name named,
    holds.at?_join name named]
  split
  · next empty =>
    refine reported.others _ fun other inside nonempty same => ?_
    rw [List.inj_on_of_nodup_map distinct member inside (append_json_inj same)] at empty
    exact nonempty empty
  · next nonempty => exact reported.found entry member nonempty

end SchemaFiles

section Told

variable {σ : Type}

/-- The files and the store of a desk. -/
def Desk.contents (d : Desk σ) : FileTree × σ := (d.files, d.store)

theorem keeps_print (p : Print) : Keeps Desk.contents (Work.print p : Work σ Unit) := fun _ => rfl

theorem keeps_note (manner : Manner) (text : String) :
    Keeps Desk.contents (Work.note manner text : Work σ Unit) := by
  unfold Work.note
  split
  · exact keeps_pure _ _
  · exact keeps_print _

theorem keeps_forIn {α : Type} {each : α → PUnit → Work σ (ForInStep PUnit)}
    (keeps : ∀ x r, Keeps Desk.contents (each x r)) (xs : List α) (r : PUnit) :
    Keeps Desk.contents (forIn xs r each) := by
  induction xs generalizing r with
  | nil =>
    rw [List.forIn_nil]
    exact keeps_pure _ _
  | cons x xs ih =>
    rw [List.forIn_cons]
    refine (keeps x r).bind fun step => ?_
    cases step with
    | done r => exact keeps_pure _ _
    | yield r => exact ih r

/-- What is told of a validation is only printed. -/
theorem keeps_tell (manner : Manner) (collection : String) (violations : List Violation) :
    Keeps Desk.contents (tell manner collection violations : Work σ Unit) := by
  unfold tell
  split
  · exact keeps_note _ _
  · refine (keeps_note _ _).bind fun _ => ?_
    split
    · exact (keeps_forIn (fun _ _ => (keeps_print _).bind fun _ => keeps_pure _ _) _ _).bind
        fun _ => keeps_pure _ _
    · exact keeps_pure _ _

end Told

section Validation

variable {σ : Type} [DocumentStore σ] {d d' later : Desk σ} {schemas folder collection : String}
  {collections : List String} {summary : Bool} {manner : Manner} {violations : List Violation}

/-- Violations of a collection as a validation finds them that starts at a desk. By the time that it
comes to the collection, it has listed others. -/
def Finds [FloatReader] [Standards] (d : Desk σ) (schemas collection : String)
    (violations : List Violation) :
    Prop :=
  ∃ store documents schema, Listings d.store store ∧ listed collection store = .ok documents ∧
    SchemaFiles.read d.files (SchemaFiles.collectionFile d.files schemas collection) =
      .ok schema ∧
    validateCollection schema documents = .ok violations

theorem Finds.of_later [FloatReader] [Standards] (finds : Finds later schemas collection violations)
    (files : later.files = d.files) (listings : Listings d.store later.store) :
    Finds d schemas collection violations := by
  obtain ⟨store, documents, schema, before, read, rest⟩ := finds
  rw [files] at rest
  exact ⟨store, documents, schema, listings.trans before, read, rest⟩

theorem eq_ok_of_mapError {ε ε' α : Type} {f : ε → ε'} {x : Except ε α} {a : α}
    (mapped : x.mapError f = .ok a) : x = .ok a := by
  cases x <;> cases mapped
  rfl

theorem validateOne_eq_ok [FloatReader] [Standards] {report : CollectionReport}
    (done : (validateOne schemas collection).run d = (.ok (report, violations), d')) :
    Finds d schemas collection violations ∧ d'.files = d.files ∧ Listings d.store d'.store := by
  rcases read : (DocumentStore.list collection).run d.store with ⟨e | documents, store⟩
  · rw [validateOne, run_bind, Work.documents, Work.run_onStore, read] at done
    cases done
  · rw [validateOne_run schemas read, Prod.mk.injEq] at done
    obtain ⟨result, rfl⟩ := done
    refine ⟨⟨d.store, documents, ?_⟩, rfl, .next .none read⟩
    obtain ⟨schema, parsed, result⟩ := Except.bind_eq_ok_iff.mp result
    obtain ⟨found, checked, ⟨⟩⟩ := Except.bind_eq_ok_iff.mp result
    exact ⟨schema, .none, congrArg Prod.fst read, eq_ok_of_mapError parsed,
      eq_ok_of_mapError checked⟩

/-- What a validation does with one collection of several. -/
def checkOne [FloatReader] [Standards] (schemas : String) (manner : Manner) (collection : String) :
    Work σ (CollectionReport × String × List Violation) := do
  let (report, violations) ← validateOne schemas collection
  tell manner collection violations
  return (report, collection, violations)

theorem checkOne_eq_ok [FloatReader] [Standards]
    {checked : CollectionReport × String × List Violation}
    (done : (checkOne schemas manner collection).run d = (.ok checked, d')) :
    (checked.2.1 = collection ∧ Finds d schemas collection checked.2.2) ∧
      d'.files = d.files ∧ Listings d.store d'.store := by
  obtain ⟨⟨report, violations⟩, next, found, done⟩ := run_bind_eq_ok_iff.mp done
  obtain ⟨⟨⟩, told, telling, ⟨⟩⟩ := run_bind_eq_ok_iff.mp done
  obtain ⟨finds, files, listings⟩ := validateOne_eq_ok found
  have same : (d'.files, d'.store) = (next.files, next.store) :=
    (keeps_tell manner collection violations).view_eq telling
  rw [(Prod.mk.inj same).1, (Prod.mk.inj same).2]
  exact ⟨⟨rfl, finds⟩, files, listings⟩

theorem mapM_checkOne_eq_ok [FloatReader] [Standards]
    {checked : List (CollectionReport × String × List Violation)}
    (done : (collections.mapM (checkOne schemas manner)).run d = (.ok checked, d')) :
    List.Forall₂ (fun c entry => entry.1 = c ∧ Finds d schemas c entry.2) collections
        (checked.map (·.2)) ∧
      d'.files = d.files ∧ Listings d.store d'.store := by
  induction collections generalizing d checked with
  | nil =>
    cases done
    exact ⟨.nil, rfl, .none⟩
  | cons c collections ih =>
    obtain ⟨first, rest, next, rfl, here, there⟩ := run_mapM_cons_eq_ok_iff.mp done
    obtain ⟨found, files, listings⟩ := checkOne_eq_ok here
    obtain ⟨others, filesToo, listingsToo⟩ := ih there
    refine ⟨.cons found (others.imp fun c entry finds => ⟨finds.1, ?_⟩),
      filesToo.trans files, listings.trans listingsToo⟩
    exact finds.2.of_later files listings

theorem validateCollections_into [FloatReader] [Standards] (folder : String) :
    (validateCollections collections schemas (some folder) summary manner : Work σ Validation) =
      (do
        Work.orFail
          (SchemaFiles.requireFolder (← get).files folder collections "writing errors for")
        let checked ← collections.mapM (checkOne schemas manner)
        let written ← Work.onFiles
          (SchemaFiles.writeViolations folder (checked.map (·.2)) summary)
        return ⟨checked.map (·.1), checked.map (·.2), written⟩) := rfl

/-- After a validation into a folder that is there, the file of each collection with violations
holds them, in order, and for a summary merged. Every other place, the file of a collection without
violations among them, is as it was before. -/
theorem validateCollections_reports [FloatReader] [Standards] {validation : Validation}
    (distinct : collections.Nodup) (plain : ∀ c ∈ collections, Location.IsPlain c)
    (directory : d.files.isDirectory folder)
    (done : (validateCollections collections schemas (some folder) summary manner).run d =
      (.ok validation, d')) :
    List.Forall₂ (fun c entry => entry.1 = c ∧ Finds d schemas c entry.2) collections
      validation.violations ∧
    (∀ entry ∈ validation.violations,
      d'.files.at? (SchemaFiles.collectionFile d.files folder entry.1) =
        if entry.2 = [] then d.files.at? (SchemaFiles.collectionFile d.files folder entry.1)
        else some (.text (SchemaFiles.report summary entry.2).pretty)) ∧
    ∃ place, d.files.place? folder = some place ∧
      ∀ other, (∀ entry ∈ validation.violations, entry.2 ≠ [] →
        other ≠ place ++ [entry.1 ++ ".json"]) → d'.files.entry? other = d.files.entry? other := by
  rw [validateCollections_into] at done
  obtain ⟨_, _, ⟨⟩, done⟩ := run_bind_eq_ok_iff.mp done
  obtain ⟨⟨⟩, next, allowed, done⟩ := run_bind_eq_ok_iff.mp done
  rw [Work.run_orFail, Prod.mk.injEq] at allowed
  obtain ⟨-, rfl⟩ := allowed
  obtain ⟨checked, validated, found, done⟩ := run_bind_eq_ok_iff.mp done
  obtain ⟨written, _, ended, ⟨⟩⟩ := run_bind_eq_ok_iff.mp done
  obtain ⟨files, wrote, rfl⟩ := Work.onFiles_eq_ok ended
  obtain ⟨each, same, -⟩ := mapM_checkOne_eq_ok found
  have names : (checked.map (·.2)).map (·.1) = collections := by
    refine Eq.symm (List.forall₂_eq_eq_eq ▸ List.forall₂_map_right_iff.mpr ?_)
    exact each.imp fun c entry found => found.1.symm
  have plain : ∀ entry ∈ checked.map (·.2), Location.IsPlain entry.1 := by
    intro entry member
    exact plain _ (names ▸ List.mem_map_of_mem member)
  rw [← names] at distinct
  obtain ⟨place, holds⟩ := FileTree.exists_holds directory
  rw [same, SchemaFiles.writeViolations, run_bind, run_get] at wrote
  dsimp only at wrote
  rw [if_pos directory] at wrote
  have reported := SchemaFiles.reported_of_writeEach holds plain distinct wrote
  exact ⟨each, fun entry => reported.at?_collectionFile holds plain distinct, place, holds.led,
    reported.others⟩

end Validation

namespace Sample

attribute [local instance] FloatReader.exact Standards.bare

/-- Patients and wards, each with a schema, and a file of wards from an earlier day. No patient is
accepted, and every ward is. -/
def clinic : Desk MemoryStore where
  files :=
    { entries := [(["schemas"], .directory), (["schemas", "patients.json"], .text "false"),
        (["schemas", "wards.json"], .text "true"), (["out"], .directory),
        (["out", "wards.json"], .text "[]")] }
  store := { collections := [("patients", [⟨"p1", []⟩]), ("wards", [⟨"w1", []⟩])] }

/-- The validation of the clinic, quiet, into the directory of violations. -/
def clinicRun : Except CommandError Validation × Desk MemoryStore :=
  (validateCollections ["patients", "wards"] "schemas" (some "out") false
    ⟨.json, true, false, {}⟩).run clinic

theorem clinicRun_found :
    (clinicRun.1.toOption.map fun v => v.violations.map fun entry => (entry.1, entry.2.length)) =
      some [("patients", 1), ("wards", 0)] := by
  decide +kernel

/-- One patient is not accepted. -/
theorem exists_clinicRun : ∃ validation d' violation, clinicRun = (.ok validation, d') ∧
    validation.violations = [("patients", [violation]), ("wards", [])] := by
  have found := clinicRun_found
  generalize clinicRun = run at found ⊢
  obtain ⟨e | validation, d'⟩ := run
  · simp [Except.toOption] at found
  · have found : validation.violations.map (fun entry => (entry.1, entry.2.length)) =
        [("patients", 1), ("wards", 0)] := Option.some.inj found
    obtain ⟨⟨c, first⟩, rest, split, one, found⟩ := List.map_eq_cons_iff.mp found
    obtain ⟨⟨c', second⟩, rest', rfl, zero, found⟩ := List.map_eq_cons_iff.mp found
    rw [List.map_eq_nil_iff.mp found] at split
    obtain ⟨rfl, one⟩ := Prod.mk.inj one
    obtain ⟨rfl, zero⟩ := Prod.mk.inj zero
    obtain ⟨violation, rfl⟩ := List.length_eq_one_iff.mp one
    obtain rfl : second = [] := List.length_eq_zero_iff.mp zero
    exact ⟨validation, d', violation, rfl, split⟩

theorem plain_clinic : ∀ c ∈ ["patients", "wards"], Location.IsPlain c := by
  unfold Location.IsPlain
  decide

theorem directory_out : clinic.files.isDirectory "out" := by decide +kernel

theorem collectionFile_out (collection : String) :
    SchemaFiles.collectionFile clinic.files "out" collection =
      Location.join "out" (collection ++ ".json") := if_pos directory_out

theorem at?_wards : clinic.files.at? (SchemaFiles.collectionFile clinic.files "out" "wards") =
    some (.text "[]") := by
  rw [collectionFile_out]
  rfl

/-- The patient is told of, and the file of the wards, which have no violations, is still there. -/
theorem validateCollections_reports_clinic : ∃ validation d' violation,
    clinicRun = (.ok validation, d') ∧
    d'.files.at? (SchemaFiles.collectionFile clinic.files "out" "patients") =
      some (.text (SchemaFiles.report false [violation]).pretty) ∧
    d'.files.at? (SchemaFiles.collectionFile clinic.files "out" "wards") = some (.text "[]") := by
  obtain ⟨validation, d', violation, done, found⟩ := exists_clinicRun
  obtain ⟨-, files, -⟩ := validateCollections_reports (by decide) plain_clinic directory_out done
  rw [found] at files
  have patients := files _ List.mem_cons_self
  have wards := files _ (List.mem_cons_of_mem _ List.mem_cons_self)
  rw [if_neg (List.cons_ne_nil _ _)] at patients
  rw [if_pos rfl, at?_wards] at wards
  exact ⟨validation, d', violation, done, patients, wards⟩

/-- The folder keeps a file of violations for a collection that has none. -/
theorem validateCollections_keeps_file :
    ¬ ∀ (d d' : Desk MemoryStore) (collections : List String) (schemas folder : String)
        (summary : Bool) (manner : Manner) (validation : Validation),
      collections.Nodup → (∀ c ∈ collections, Location.IsPlain c) → d.files.isDirectory folder →
      folder ≠ schemas →
      (validateCollections collections schemas (some folder) summary manner).run d =
        (.ok validation, d') →
      ∀ entry ∈ validation.violations,
        (d'.files.at? (SchemaFiles.collectionFile d.files folder entry.1)).isSome ↔
          entry.2 ≠ [] := by
  intro claimed
  obtain ⟨validation, d', violation, done, found⟩ := exists_clinicRun
  have stays : (clinicRun.2.files.at?
      (SchemaFiles.collectionFile clinic.files "out" "wards")).isSome := by
    decide +kernel
  rw [done] at stays
  have member : ("wards", []) ∈ validation.violations := by
    rw [found]
    exact List.mem_cons_of_mem _ List.mem_cons_self
  exact (claimed clinic d' _ _ _ _ _ validation (by decide) plain_clinic directory_out (by decide)
    done _ member).mp stays rfl

end Sample

end DocumentMigration
