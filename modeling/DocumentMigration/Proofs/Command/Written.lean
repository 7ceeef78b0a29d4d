import DocumentMigration.Proofs.Command.Reports

/-!
What a validation writes over. Nothing keeps the files that it has read apart from those that it
writes: a location of the output that leads to a schema takes the place of the schema. No other file
changes, and none before all collections are validated.
-/
namespace DocumentMigration

open Json DocumentMigration.Action

namespace SchemaFiles

variable {t t' opened : FileTree} {location folder output path : String} {v : Value}
  {summary : Bool} {place : List String} {written : List (String × Value)}
  {violations : List (String × List Violation)}

/-- The value that was written last of those whose locations lead to a place. -/
def lastAt (t : FileTree) (place : List String) (written : List (String × Value)) :
    Option Value :=
  (written.reverse.find? fun w => t.place? w.1 = some place).map (·.2)

theorem lastAt_cons (t : FileTree) (place : List String) (w : String × Value)
    (written : List (String × Value)) :
    lastAt t place (w :: written) =
      (lastAt t place written).or (if t.place? w.1 = some place then some w.2 else none) := by
  rw [lastAt, List.reverse_cons, List.find?_append, Option.map_or, ← lastAt, List.find?_singleton]
  split_ifs <;> simp_all

/-- A tree in which values were written, in order. Files that were there hold what was written to
them last, or else what they held. -/
structure Wrote (written : List (String × Value)) (t t' : FileTree) : Prop where
  grown : t.Extends t'
  entry : ∀ place, (t.entry? place).isSome →
    t'.entry? place = ((lastAt t' place written).map fun v => .text v.pretty).or (t.entry? place)

theorem Wrote.none (t : FileTree) : Wrote [] t t := ⟨.refl t, fun _ _ => rfl⟩

theorem write_eq_error {e : SchemaError} (failed : (write location v).run t = (.error e, t')) :
    ∃ fault, (FileTree.makeParents location >>= fun _ =>
      FileTree.writeText location v.pretty).run t = (.error fault, t') := by
  unfold write at failed
  rcases ended : (FileTree.makeParents location >>= fun _ =>
    FileTree.writeText location v.pretty).run t with ⟨fault | ⟨⟩, next⟩
  all_goals
    rw [Action.run, ExceptT.run] at failed
    simp only [ended] at failed
    cases failed
  exact ⟨fault, rfl⟩

/-- A write that fails has made directories at most. -/
theorem wrote_of_write_error {e : SchemaError}
    (failed : (write location v).run t = (.error e, t')) : Wrote [] t t' := by
  have made : t' = ((FileTree.makeParents location).run t).2 := by
    obtain ⟨fault, stopped⟩ := write_eq_error failed
    rcases run_bind_eq_error_iff.mp stopped with refused | ⟨⟨⟩, ready, made, refused⟩
    · rw [refused]
    · rw [FileTree.writeText, FileTree.run_write] at refused
      split at refused <;> cases refused
      rw [made]
  subst made
  exact ⟨FileTree.extends_makeParents location t, fun _ => FileTree.entry?_makeParents location⟩

theorem target_of_write (done : (write location v).run t = (.ok (), opened)) :
    t.Extends opened ∧ ∃ place, opened.place? location = some place ∧
      ∀ other, (t.entry? other).isSome →
        opened.entry? other = if other = place then some (.text v.pretty) else t.entry? other := by
  refine ⟨(write_eq_ok done).1, ?_⟩
  obtain ⟨⟨⟩, ready, made, wrote⟩ := run_bind_eq_ok_iff.mp (write_eq_ok_iff.mp done)
  rw [FileTree.writeText, FileTree.run_write] at wrote
  split at wrote
  · next place aimed =>
    cases wrote
    refine ⟨place, FileTree.place?_put aimed _, fun other present => ?_⟩
    have kept := FileTree.entry?_makeParents location present
    rw [made] at kept
    rw [FileTree.entry?_put (FileTree.ne_nil_of_target? aimed), kept]
  · cases wrote

theorem Wrote.cons (first : (write location v).run t = (.ok (), opened))
    (later : Wrote written opened t') : Wrote ((location, v) :: written) t t' := by
  obtain ⟨grown, place, led, entries⟩ := target_of_write first
  refine ⟨grown.trans later.grown, fun other present => ?_⟩
  rw [later.entry other (grown.present other present), lastAt_cons, later.grown.place? led,
    entries other present]
  by_cases here : other = place
  · subst here
    cases lastAt t' other written <;> simp
  · have away : ¬ place = other := Ne.symm here
    cases lastAt t' other written <;> simp [here, away]

/-- What is written for some violations, in order: a directory gets a file for each collection that
has any, and any other location is a file with all of them. -/
def outputsTo (t : FileTree) (output : String) (violations : List (String × List Violation))
    (summary : Bool) : List (String × Value) :=
  if t.isDirectory output then
    (violations.filter (!·.2.isEmpty)).map fun entry =>
      (Location.join output (entry.1 ++ ".json"), report summary entry.2)
  else [(output, report summary (violations.flatMap (·.2)))]

/-- The same where the output may be left out. -/
def outputs (t : FileTree) (output : Option String) (violations : List (String × List Violation))
    (summary : Bool) : List (String × Value) :=
  match output with
  | none => []
  | some location => outputsTo t location violations summary

/-- A run that has written the first of some values, all of them if it has not failed. -/
def WroteSome {ε α : Type} (values : List (String × Value)) (t t' : FileTree)
    (result : Except ε α) : Prop :=
  ∃ written, written <+: values ∧ Wrote written t t' ∧ ∀ a, result = .ok a → written = values

theorem wroteSome_error {ε α : Type} {values written : List (String × Value)} {t t' : FileTree}
    {e : ε} (first : written <+: values) (wrote : Wrote written t t') :
    WroteSome values t t' (.error e : Except ε α) :=
  ⟨written, first, wrote, fun _ done => by cases done⟩

theorem wroteSome_writeEach (violations : List (String × List Violation))
    (directory : t.isDirectory folder) :
    WroteSome (outputsTo t folder violations summary) t
      ((writeEach folder summary violations).run t).2
      ((writeEach folder summary violations).run t).1 := by
  rw [outputsTo, if_pos directory]
  induction violations generalizing t with
  | nil => exact ⟨[], List.prefix_rfl, .none t, fun _ _ => rfl⟩
  | cons entry violations ih =>
    obtain ⟨collection, found⟩ := entry
    rw [writeEach]
    split
    · next empty =>
      rw [List.filter_cons_of_neg (by simpa using empty)]
      exact ih directory
    · next reported =>
      have file : collectionFile t folder collection =
          Location.join folder (collection ++ ".json") := if_pos directory
      rw [List.filter_cons_of_pos (by simpa using reported), List.map_cons, run_bind, run_get]
      dsimp only
      rw [file, run_bind]
      rcases wrote : (write (Location.join folder (collection ++ ".json"))
        (report summary found)).run t with ⟨e | ⟨⟩, opened⟩
      · exact wroteSome_error List.nil_prefix (wrote_of_write_error wrote)
      · dsimp only
        obtain ⟨written, first, rest, all⟩ := ih ((write_eq_ok wrote).1.isDirectory directory)
        rw [run_bind_pure]
        refine ⟨_ :: written, List.cons_prefix_cons.mpr ⟨rfl, first⟩, .cons wrote rest, ?_⟩
        intro files done
        obtain ⟨files, done, -⟩ := Except.map_eq_ok_iff.mp done
        rw [all files done]

/-- A write of violations changes no file to which none of its locations leads. -/
theorem wroteSome_writeViolations (t : FileTree) (output : String)
    (violations : List (String × List Violation)) (summary : Bool) :
    WroteSome (outputsTo t output violations summary) t
      ((writeViolations output violations summary).run t).2
      ((writeViolations output violations summary).run t).1 := by
  rw [writeViolations, run_bind, run_get]
  dsimp only
  split
  · next directory => exact wroteSome_writeEach violations directory
  · next single =>
    rw [outputsTo, if_neg single, run_bind_pure]
    rcases wrote : (write output (report summary (violations.flatMap (·.2)))).run t with
      ⟨e | ⟨⟩, opened⟩
    · rw [wrote]
      exact wroteSome_error List.nil_prefix (wrote_of_write_error wrote)
    · rw [wrote]
      exact ⟨_, List.prefix_rfl, .cons wrote (.none opened), fun _ _ => rfl⟩

/-- What stands at a place after values were written: the last one whose location leads there, or
else what stood there. -/
def entryAfter (t : FileTree) (place : List String) (entry : FileEntry)
    (written : List (String × Value)) : FileEntry :=
  ((lastAt t place written).map fun v => .text v.pretty).getD entry

theorem Wrote.entryAfter {entry : FileEntry} (wrote : Wrote written t t')
    (held : t.entry? place = some entry) :
    t'.entry? place = some (entryAfter t' place entry written) := by
  rw [wrote.entry place (by rw [held]; rfl), held, SchemaFiles.entryAfter]
  cases lastAt t' place written <;> rfl

theorem entryAfter_singleton (t : FileTree) (place : List String) (entry : FileEntry)
    (w : String × Value) :
    entryAfter t place entry [w] =
      if t.place? w.1 = some place then .text w.2.pretty else entry := by
  rw [entryAfter, lastAt_cons]
  split_ifs <;> rfl

end SchemaFiles

section Validation

variable {σ : Type} {d d' : Desk σ} {schemas : String} {collections : List String}
  {output : Option String} {summary : Bool} {manner : Manner}

theorem keeps_onStore {ε α : Type} (action : Action σ ε α) (error : ε → CommandError) :
    Keeps Desk.files (Work.onStore action error) := by
  intro d
  rw [Work.run_onStore]
  rcases action.run d.store with ⟨_ | a, store⟩ <;> rfl

variable [DocumentStore σ]

theorem keeps_files_validateOne [FloatReader] [Standards] (schemas collection : String) :
    Keeps Desk.files (validateOne schemas collection : Work σ _) := by
  refine (keeps_onStore _ _).bind fun documents => ?_
  refine Keeps.bind (fun _ => rfl) fun d => Keeps.bind (fun _ => rfl) fun d' => ?_
  refine Keeps.bind (keeps_mk_pure _ _) fun schema => ?_
  split
  · exact fun _ => rfl
  · exact keeps_pure _ _

theorem keeps_files_checkOne [FloatReader] [Standards] (schemas : String) (manner : Manner)
    (collection : String) : Keeps Desk.files (checkOne schemas manner collection : Work σ _) := by
  refine (keeps_files_validateOne _ _).bind fun checked => ?_
  refine Keeps.bind (fun d => ?_) fun _ => keeps_pure _ _
  exact congrArg Prod.fst (keeps_tell manner collection checked.2 d)

/-- The part of a validation before it writes. -/
def validateAll [FloatReader] [Standards] (collections : List String) (schemas : String)
    (output : Option String) (manner : Manner) :
    Work σ (List (CollectionReport × String × List Violation)) := do
  if let some folder := output then
    Work.orFail
      (SchemaFiles.requireFolder (← get).files folder collections "writing errors for")
  collections.mapM (checkOne schemas manner)

/-- The writing of a validation. -/
def writeOutput (output : Option String) (violations : List (String × List Violation))
    (summary : Bool) : Work σ (List String) :=
  match output with
  | none => pure []
  | some location => Work.onFiles (SchemaFiles.writeViolations location violations summary)

theorem validateCollections_eq [FloatReader] [Standards] :
    (validateCollections collections schemas output summary manner : Work σ Validation) =
      validateAll collections schemas output manner >>= fun checked => do
        let written ← writeOutput output (checked.map (·.2)) summary
        return ⟨checked.map (·.1), checked.map (·.2), written⟩ := by
  cases output with
  | none => rfl
  | some folder =>
    rw [validateAll]
    simp only [bind_assoc]
    rfl

theorem keeps_files_validateAll [FloatReader] [Standards] (collections : List String)
    (schemas : String)
    (output : Option String) (manner : Manner) :
    Keeps Desk.files (validateAll collections schemas output manner : Work σ _) := by
  have each : Keeps Desk.files (collections.mapM (checkOne schemas manner) : Work σ _) :=
    Keeps.mapM (keeps_files_checkOne schemas manner) collections
  cases output with
  | none => exact each
  | some folder => exact Keeps.bind (fun _ => rfl) fun d => (keeps_mk_pure _ _).bind fun _ => each

/-- Before the writing, a validation has found the violations of all collections. -/
theorem validateAll_eq_ok [FloatReader] [Standards]
    {checked : List (CollectionReport × String × List Violation)}
    (done : (validateAll collections schemas output manner).run d = (.ok checked, d')) :
    List.Forall₂ (fun c entry => entry.1 = c ∧ Finds d schemas c entry.2) collections
        (checked.map (·.2)) ∧ d'.files = d.files := by
  have each : (collections.mapM (checkOne schemas manner)).run d = (.ok checked, d') := by
    cases output with
    | none => exact done
    | some folder =>
      obtain ⟨_, _, ⟨⟩, done⟩ := run_bind_eq_ok_iff.mp done
      obtain ⟨⟨⟩, _, allowed, done⟩ := run_bind_eq_ok_iff.mp done
      rw [Work.run_orFail, Prod.mk.injEq] at allowed
      rwa [allowed.2]
  obtain ⟨found, same, -⟩ := mapM_checkOne_eq_ok each
  exact ⟨found, same⟩

omit [DocumentStore σ] in
theorem wroteSome_writeOutput (d : Desk σ) (output : Option String)
    (violations : List (String × List Violation)) (summary : Bool) :
    SchemaFiles.WroteSome (SchemaFiles.outputs d.files output violations summary) d.files
      ((writeOutput output violations summary).run d).2.files
      ((writeOutput output violations summary).run d).1 := by
  cases output with
  | none => exact ⟨[], List.prefix_rfl, .none _, fun _ _ => rfl⟩
  | some location =>
    obtain ⟨written, first, wrote, all⟩ :=
      SchemaFiles.wroteSome_writeViolations d.files location violations summary
    rw [writeOutput, Work.run_onFiles]
    rcases ended : (SchemaFiles.writeViolations location violations summary).run d.files with
      ⟨e | files, t⟩
    all_goals rw [ended] at wrote all
    · exact SchemaFiles.wroteSome_error first wrote
    · exact ⟨written, first, wrote, fun _ _ => all files rfl⟩

/-- A validation that fails before all collections are validated leaves the files alone. One that
gets further writes its violations, and all of them unless it fails in between. Whatever stood at a
place, be it a schema or no text at all, is found there afterwards, but for what was written last to
a location that leads there. -/
theorem validateCollections_spares [FloatReader] [Standards]
    {result : Except CommandError Validation}
    (ended : (validateCollections collections schemas output summary manner).run d =
      (result, d')) :
    (∀ e next, (validateAll collections schemas output manner).run d = (.error e, next) →
      result = .error e ∧ d'.files = d.files) ∧
    (∀ checked next, (validateAll collections schemas output manner).run d = (.ok checked, next) →
      List.Forall₂ (fun c entry => entry.1 = c ∧ Finds d schemas c entry.2) collections
        (checked.map (·.2)) ∧
      ∃ written,
        written <+: SchemaFiles.outputs d.files output (checked.map (·.2)) summary ∧
        (∀ validation, result = .ok validation →
          written = SchemaFiles.outputs d.files output (checked.map (·.2)) summary) ∧
        (∀ location place, d.files.place? location = some place →
          d'.files.place? location = some place) ∧
        ∀ place entry, d.files.entry? place = some entry →
          d'.files.entry? place =
            some (SchemaFiles.entryAfter d'.files place entry written)) := by
  rw [validateCollections_eq, run_bind] at ended
  constructor
  · intro e next failed
    rw [failed] at ended
    cases ended
    exact ⟨rfl, (keeps_files_validateAll collections schemas output manner).view_eq failed⟩
  · intro checked next validated
    obtain ⟨found, same⟩ := validateAll_eq_ok validated
    obtain ⟨written, first, wrote, all⟩ :=
      wroteSome_writeOutput next output (checked.map (·.2)) summary
    rw [validated] at ended
    dsimp only at ended
    rw [run_bind_pure, Prod.mk.injEq] at ended
    obtain ⟨rfl, rfl⟩ := ended
    rw [same] at first wrote all
    refine ⟨found, written, first, fun validation done => ?_, fun _ _ => wrote.grown.place?,
      fun _ _ => wrote.entryAfter⟩
    obtain ⟨files, done, -⟩ := Except.map_eq_ok_iff.mp done
    exact all files done

end Validation

namespace Sample

attribute [local instance] FloatReader.exact Standards.bare

/-- How the clinic is validated, quietly. -/
def quiet : Manner := ⟨.json, true, false, {}⟩

/-- The clinic with a file that is no text. -/
def scanned : Desk MemoryStore := { clinic with files := clinic.files.put ["scan.png"] .binary }

/-- The validation of the wards, with the file of their schema as output. -/
def wardsRun : Except CommandError Validation × Desk MemoryStore :=
  (validateCollections ["wards"] "schemas/wards.json" (some "schemas/wards.json") false quiet).run
    scanned

/-- The validation of a collection that has no schema. -/
def nursesRun : Except CommandError Validation × Desk MemoryStore :=
  (validateCollections ["nurses"] "schemas" (some "out") false quiet).run scanned

theorem wardsRun_ended :
    (validateCollections ["wards"] "schemas/wards.json" (some "schemas/wards.json") false
      quiet).run scanned = (wardsRun.1, wardsRun.2) := rfl

theorem exists_wards : ∃ validation checked next, wardsRun.1 = .ok validation ∧
    (validateAll ["wards"] "schemas/wards.json" (some "schemas/wards.json") quiet).run scanned =
      (.ok checked, next) ∧ checked.map (·.2) = [("wards", [])] :=
  ⟨_, _, _, rfl, rfl, rfl⟩

theorem exists_nurses : ∃ e next,
    (validateAll ["nurses"] "schemas" (some "out") quiet).run scanned = (.error e, next) :=
  ⟨_, _, rfl⟩

theorem validateCollections_spares_clinic :
    (wardsRun.2.files.at? "schemas/wards.json" = some (.text "[]") ∧
      wardsRun.2.files.at? "schemas/patients.json" = some (.text "false") ∧
      wardsRun.2.files.at? "scan.png" = some .binary) ∧
    ∃ e, nursesRun.1 = .error e ∧ nursesRun.2.files = scanned.files := by
  constructor
  · obtain ⟨validation, checked, next, done, validated, found⟩ := exists_wards
    obtain ⟨-, written, -, all, led, holds⟩ :=
      (validateCollections_spares wardsRun_ended).2 checked next validated
    have one : written = [("schemas/wards.json", SchemaFiles.report false [])] := by
      rw [all validation done, found]
      rfl
    have wards := holds ["schemas", "wards.json"] (.text "true") rfl
    have patients := holds ["schemas", "patients.json"] (.text "false") rfl
    have scan := holds ["scan.png"] .binary rfl
    have there := led "schemas/wards.json" ["schemas", "wards.json"] rfl
    rw [one, SchemaFiles.entryAfter_singleton, there] at wards patients scan
    rw [if_pos rfl] at wards
    rw [if_neg (by decide)] at patients scan
    have at? {location : String} {place : List String} {entry : FileEntry}
        (found : scanned.files.place? location = some place)
        (held : wardsRun.2.files.entry? place = some entry) :
        wardsRun.2.files.at? location = some entry := by
      rw [FileTree.at?, led location place found]
      exact held
    exact ⟨at? rfl wards, at? rfl patients, at? rfl scan⟩
  · obtain ⟨e, next, failed⟩ := exists_nurses
    have ended : (validateCollections ["nurses"] "schemas" (some "out") false quiet).run scanned =
        (nursesRun.1, nursesRun.2) := rfl
    exact ⟨e, (validateCollections_spares ended).1 e next failed⟩

/-- A schema that everything passes is gone after its own validation. -/
theorem wards_overwritten :
    ¬ ∀ (d d' : Desk MemoryStore) (collections : List String) (schemas : String)
        (output : Option String) (summary : Bool) (manner : Manner)
        (result : Except CommandError Validation),
      (validateCollections collections schemas output summary manner).run d = (result, d') →
      ∀ c ∈ collections, ∀ content,
        d.files.readText (SchemaFiles.collectionFile d.files schemas c) = .ok content →
        d'.files.readText (SchemaFiles.collectionFile d.files schemas c) = .ok content := by
  intro claimed
  have file : SchemaFiles.collectionFile scanned.files "schemas/wards.json" "wards" =
      "schemas/wards.json" := rfl
  have kept := claimed scanned _ _ _ _ _ _ _ wardsRun_ended "wards" List.mem_cons_self "true"
  rw [file] at kept
  have lost : (wardsRun.2.files.readText "schemas/wards.json").toOption = some "[]" := by
    decide +kernel
  rw [kept rfl] at lost
  exact absurd lost (by decide)

end Sample

end DocumentMigration
