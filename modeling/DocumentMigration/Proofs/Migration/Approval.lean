import DocumentMigration.Migration.Run
import DocumentMigration.Proofs.Migration.Preview

/-! A run writes only what was shown and approved: beforehand, or in answer to the one question that
it asks. In every other case the store has served the listings of the preview and nothing else. -/
namespace DocumentMigration

open DocumentMigration.Action

variable {σ : Type}

/-- The question of a notice, if it is one. -/
def Notice.question? : Notice → Option Nat
  | .asked count => some count
  | _ => none

/-- The questions that a run has asked. -/
def Run.questions (run : Run σ) : List Nat := run.notices.filterMap Notice.question?

/-- What a run notes about the rows of its preview. -/
def Plan.announcement (plan : Plan) (rows : List DocumentChange) : List Notice :=
  [.note (toString rows.length ++ " changes detected:"), shown plan.summarize rows]

@[simp] theorem Plan.questions_announcement (plan : Plan) (rows : List DocumentChange) :
    (plan.announcement rows).filterMap Notice.question? = [] := by
  unfold announcement shown
  split <;> rfl

/-- Whether the operator is asked about the rows of a preview. -/
def Plan.Asks (plan : Plan) (rows : List DocumentChange) : Prop :=
  rows ≠ [] ∧ plan.dryRun = false ∧ plan.assumeYes = false

instance (plan : Plan) (rows : List DocumentChange) : Decidable (plan.Asks rows) :=
  inferInstanceAs (Decidable (_ ∧ _ ∧ _))

/-- Whether the rows of a preview may be applied, given the answer to the question. -/
def Plan.Approved (plan : Plan) (confirm : Nat → Except String Bool) (rows : List DocumentChange) :
    Prop :=
  rows ≠ [] ∧ plan.dryRun = false ∧ (plan.assumeYes = true ∨ confirm rows.length = .ok true)

/-- What a run has come to whose preview showed some rows. -/
inductive Plan.Ends (plan : Plan) (migration : Migration σ) (confirm : Nat → Except String Bool)
    (rows : List DocumentChange) (s : σ) : Run σ → Prop where
  | applied {run : Run σ} {outcomes : List Outcome} : plan.Approved confirm rows →
      (migration.migrate plan.maxBatchSize).run s = (.ok outcomes, run.store) →
      run.result = .ok ⟨rows.length, true, outcomes⟩ → plan.Ends migration confirm rows s run
  | stopped {run : Run σ} {e : MigrationError} : plan.Approved confirm rows →
      (migration.migrate plan.maxBatchSize).run s = (.error e, run.store) →
      run.result = .error (.migrationFailed e) → plan.Ends migration confirm rows s run
  | unapproved {run : Run σ} : ¬ plan.Approved confirm rows → run.store = s →
      run.result = .ok ⟨rows.length, false, []⟩ → plan.Ends migration confirm rows s run
  | unanswered {run : Run σ} {text : String} : plan.Asks rows →
      confirm rows.length = .error text → run.store = s →
      run.result = .error (.answerFailed text) → plan.Ends migration confirm rows s run

section Run

variable {plan : Plan} {migration : Migration σ} {confirm : Nat → Except String Bool} {s s' : σ}
variable {rows : List DocumentChange}

theorem Plan.finish_notices (previewed : Nat) (notices : List Notice) :
    (plan.finish migration previewed s notices).notices = notices := by
  unfold finish
  split <;> rfl

theorem Plan.ends_of_finish (approved : plan.Approved confirm rows) (notices : List Notice) :
    plan.Ends migration confirm rows s (plan.finish migration rows.length s notices) := by
  unfold finish
  rcases ended : (migration.migrate plan.maxBatchSize).run s with ⟨e | outcomes, next⟩
  · exact .stopped approved ended rfl
  · exact .applied approved ended rfl

theorem Plan.run_of_failed {e : MigrationError}
    (failed : migration.preview.run s = (.error e, s')) :
    plan.run migration confirm s = ⟨s', [], .error (.previewFailed e)⟩ := by
  simp only [run, prepare, failed]

theorem Plan.run_of_nil (shown : migration.preview.run s = (.ok [], s')) :
    plan.run migration confirm s =
      ⟨s', [.note "No changes detected"], .ok (notApplied 0)⟩ := by
  simp only [run, prepare, shown]

/-- The run of a preview that showed rows. -/
theorem Plan.run_of_ne_nil (shown : migration.preview.run s = (.ok rows, s'))
    (nonempty : rows ≠ []) :
    plan.run migration confirm s =
      if plan.dryRun then
        ⟨s', plan.announcement rows ++ [.note "Dry run: nothing written"],
          .ok (notApplied rows.length)⟩
      else if plan.assumeYes then plan.finish migration rows.length s' (plan.announcement rows)
      else plan.resume migration rows.length s' (plan.announcement rows)
        (confirm rows.length) := by
  obtain ⟨row, rest, rfl⟩ := List.exists_cons_of_ne_nil nonempty
  simp only [run, prepare, shown]
  by_cases dry : plan.dryRun
  · simp [dry, announcement]
  · by_cases yes : plan.assumeYes <;> simp [dry, yes, announcement]

/-- The operator is asked once, or not at all. -/
theorem Plan.ends_of_run (shown : migration.preview.run s = (.ok rows, s')) :
    plan.Ends migration confirm rows s' (plan.run migration confirm s) ∧
      (plan.run migration confirm s).questions = if plan.Asks rows then [rows.length] else [] := by
  by_cases nonempty : rows = []
  · subst nonempty
    rw [run_of_nil shown]
    have unapproved : ¬ plan.Approved confirm [] := fun approved => approved.1 rfl
    exact ⟨.unapproved unapproved rfl rfl, by simp [Asks, Run.questions, Notice.question?]⟩
  rw [run_of_ne_nil shown nonempty]
  by_cases dry : plan.dryRun = true
  · have unapproved : ¬ plan.Approved confirm rows := fun approved =>
      Bool.false_ne_true (approved.2.1.symm.trans dry)
    rw [if_pos dry]
    refine ⟨.unapproved unapproved rfl rfl, ?_⟩
    simp [Asks, dry, Run.questions, Notice.question?]
  rw [if_neg dry]
  have live : plan.dryRun = false := by simpa using dry
  by_cases yes : plan.assumeYes = true
  · rw [if_pos yes]
    refine ⟨ends_of_finish ⟨nonempty, live, .inl yes⟩ _, ?_⟩
    simp [Asks, yes, Run.questions, finish_notices]
  rw [if_neg yes]
  have asks : plan.Asks rows := ⟨nonempty, live, by simpa using yes⟩
  rw [if_pos asks]
  unfold resume
  rcases answer : confirm rows.length with text | _ | _
  · refine ⟨.unanswered asks answer rfl rfl, ?_⟩
    simp [Run.questions, Notice.question?]
  · have unapproved : ¬ plan.Approved confirm rows := fun approved => by
      rcases approved.2.2 with impossible | other
      · exact yes impossible
      · simp [answer] at other
    refine ⟨.unapproved unapproved rfl rfl, ?_⟩
    simp [Run.questions, Notice.question?]
  · refine ⟨ends_of_finish ⟨nonempty, live, .inr answer⟩ _, ?_⟩
    simp [Run.questions, finish_notices, Notice.question?]

/-- Answers to questions that are not asked do not matter. -/
theorem Plan.run_congr {confirm' : Nat → Except String Bool}
    (alike : ∀ count ∈ (plan.run migration confirm s).questions, confirm' count = confirm count) :
    plan.run migration confirm' s = plan.run migration confirm s := by
  rcases shown : migration.preview.run s with ⟨e | rows, s'⟩
  · rw [run_of_failed shown, run_of_failed shown]
  by_cases nonempty : rows = []
  · subst nonempty
    rw [run_of_nil shown, run_of_nil shown]
  rw [(ends_of_run shown).2] at alike
  rw [run_of_ne_nil shown nonempty, run_of_ne_nil shown nonempty]
  by_cases asks : plan.Asks rows
  · rw [if_pos asks] at alike
    rw [alike rows.length List.mem_cons_self]
  · have settled : plan.dryRun = true ∨ plan.assumeYes = true := by
      by_contra! unsettled
      exact asks ⟨nonempty, by simpa using unsettled.1, by simpa using unsettled.2⟩
    rcases settled with dry | yes
    · simp [dry]
    · simp [yes]

theorem Plan.Ends.report {run : Run σ} {report : MigrationReport}
    (ends : plan.Ends migration confirm rows s run) (told : run.result = .ok report) :
    report.previewed = rows.length ∧
      (report.applied = true ↔ plan.Approved confirm rows ∧
        (migration.migrate plan.maxBatchSize).run s = (.ok report.outcomes, run.store)) ∧
      (report.applied = false → report.outcomes = []) := by
  cases ends with
  | applied approved migrated result =>
    cases result.symm.trans told
    exact ⟨rfl, ⟨fun _ => ⟨approved, migrated⟩, fun _ => rfl⟩, nofun⟩
  | stopped _ _ result => cases result.symm.trans told
  | unapproved unapproved _ result =>
    cases result.symm.trans told
    exact ⟨rfl, ⟨nofun, fun both => (unapproved both.1).elim⟩, fun _ => rfl⟩
  | unanswered _ _ _ result => cases result.symm.trans told

end Run

/-- A run of templates. Unless its preview shows rows and these are approved, it leaves the store as
the listings of the preview left it. It asks at most once, with the number of rows, and looks at no
other answer. Its report says whether the templates were applied, and what came of that. -/
theorem Plan.run_within_approval [DocumentStore σ] (plan : Plan) (templates : List Template)
    (confirm : Nat → Except String Bool) {s s' : σ}
    {previewed : Except MigrationError (List DocumentChange)}
    (shown : (previewAll templates).run s = (previewed, s')) :
    let run := plan.run (.ofTemplates templates) confirm s
    Listings s s' ∧
    (∀ e, previewed = .error e →
      run.store = s' ∧ run.questions = [] ∧ run.result = .error (.previewFailed e)) ∧
    (∀ rows, previewed = .ok rows → plan.Ends (.ofTemplates templates) confirm rows s' run ∧
      run.questions = if plan.Asks rows then [rows.length] else []) ∧
    (∀ (γ : Type) (view : σ → γ),
      (∀ c, Keeps view (DocumentStore.list c : Action σ StoreError (List Snapshot))) →
      view run.store ≠ view s → ∃ rows, previewed = .ok rows ∧ plan.Approved confirm rows) ∧
    (∀ report, run.result = .ok report → ∃ rows, previewed = .ok rows ∧
      report.previewed = rows.length ∧
      (report.applied = true ↔ plan.Approved confirm rows ∧
        (migrateAll templates plan.maxBatchSize).run s' = (.ok report.outcomes, run.store)) ∧
      (report.applied = false → report.outcomes = [])) ∧
    ∀ confirm' : Nat → Except String Bool,
      (∀ count ∈ run.questions, confirm' count = confirm count) →
      plan.run (.ofTemplates templates) confirm' s = run := by
  intro run
  have preview : (Migration.ofTemplates templates).preview.run s = (previewed, s') := shown
  have listings := onlyLists_previewAll templates s
  rw [shown] at listings
  have whenFailed (e : MigrationError) (failed : previewed = .error e) :
      run = ⟨s', [], .error (.previewFailed e)⟩ := by
    subst failed
    exact run_of_failed preview
  have whenShown (rows : List DocumentChange) (shows : previewed = .ok rows) :
      plan.Ends (.ofTemplates templates) confirm rows s' run ∧
        run.questions = if plan.Asks rows then [rows.length] else [] := by
    subst shows
    exact ends_of_run preview
  refine ⟨listings, fun e failed => ?_, whenShown, fun γ view keeps changed => ?_,
    fun report told => ?_, fun confirm' alike => run_congr alike⟩
  · rw [whenFailed e failed]
    exact ⟨rfl, rfl, rfl⟩
  · -- What is left of a run that was not approved are listings, which the view does not show.
    have seen : run.store ≠ s' := fun same => changed (by rw [same, listings.view_eq keeps])
    cases previewed with
    | error e => exact (seen (by rw [whenFailed e rfl])).elim
    | ok rows =>
      refine ⟨rows, rfl, ?_⟩
      cases (whenShown rows rfl).1 with
      | applied approved => exact approved
      | stopped approved => exact approved
      | unapproved _ same => exact (seen same).elim
      | unanswered _ _ same => exact (seen same).elim
  · cases previewed with
    | error e =>
      rw [whenFailed e rfl] at told
      cases told
    | ok rows => exact ⟨rows, rfl, (whenShown rows rfl).1.report told⟩

namespace Sample

def drafts : MemoryStore := .ofCollection "drafts" [⟨"d1", []⟩, ⟨"d2", []⟩] ⟨0⟩

def sweep : Template := { operation := .delete, collection := "drafts" }

/-- The operator declines the deletion of two documents. -/
theorem run_within_approval_of_sweep :
    let run := ({} : Plan).run (.ofTemplates [sweep]) (fun _ => .ok false) drafts
    run.questions = [2] ∧ run.store.commits = drafts.commits := by
  intro run
  have shown : (previewAll [sweep]).run drafts =
    (.ok [⟨.delete, "d1", "drafts", some [], none, []⟩,
      ⟨.delete, "d2", "drafts", some [], none, []⟩], { drafts with reads := 1 }) := rfl
  obtain ⟨-, -, ends, writes, -⟩ :=
    Plan.run_within_approval {} [sweep] (fun _ => .ok false) shown
  refine ⟨(ends _ rfl).2, ?_⟩
  by_contra changed
  obtain ⟨rows, _, _, _, yes | answered⟩ := writes Nat MemoryStore.commits (fun _ _ => rfl) changed
  · cases yes
  · cases answered

end Sample

end DocumentMigration
