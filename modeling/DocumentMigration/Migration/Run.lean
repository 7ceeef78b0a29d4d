import DocumentMigration.Change.Summary
import DocumentMigration.Migration.Basic

/-!
A run for an operator: preview, show, ask, apply. Only the last step writes, and it is reached only
when something would change, the run is no dry run, and the operator agrees or agreed beforehand.
-/
namespace DocumentMigration

structure Plan where
  summarize : Bool := false
  assumeYes : Bool := false
  dryRun : Bool := false
  maxBatchSize : Nat := batchSizeLimit

/-- What the operator sees on the way. -/
inductive Notice where
  | note (text : String)
  | documents (rows : List DocumentRow)
  | groups (rows : List GroupRow)
  /-- The question whether so many changes shall be applied. -/
  | asked (count : Nat)

inductive RunError where
  | previewFailed (error : MigrationError)
  | migrationFailed (error : MigrationError)
  | answerFailed (text : String)

structure Run (σ : Type) where
  store : σ
  notices : List Notice
  result : Except RunError MigrationReport

/-- A run up to the question, and from there on for either answer. -/
inductive Prepared (σ : Type) where
  | finished (run : Run σ)
  | question (count : Nat) (store : σ) (notices : List Notice)

variable {σ : Type}

def shown (summary : Bool) (changes : List DocumentChange) : Notice :=
  if summary then .groups ((summarize changes).map (·.row)) else .documents (changes.map (·.row))

def notApplied (previewed : Nat) : MigrationReport := ⟨previewed, false, []⟩

/-- The last step: every template is applied. -/
def Plan.finish (plan : Plan) (migration : Migration σ) (previewed : Nat) (store : σ)
    (notices : List Notice) : Run σ :=
  match (migration.migrate plan.maxBatchSize).run store with
  | (.ok outcomes, store) => ⟨store, notices, .ok ⟨previewed, true, outcomes⟩⟩
  | (.error e, store) => ⟨store, notices, .error (.migrationFailed e)⟩

def Plan.prepare (plan : Plan) (migration : Migration σ) (store : σ) : Prepared σ :=
  match migration.preview.run store with
  | (.error e, store) => .finished ⟨store, [], .error (.previewFailed e)⟩
  | (.ok [], store) => .finished ⟨store, [.note "No changes detected"], .ok (notApplied 0)⟩
  | (.ok changes, store) =>
    let count := changes.length
    let notices := [.note (toString count ++ " changes detected:"), shown plan.summarize changes]
    if plan.dryRun then
      .finished ⟨store, notices ++ [.note "Dry run: nothing written"], .ok (notApplied count)⟩
    else if plan.assumeYes then .finished (plan.finish migration count store notices)
    else .question count store notices

/-- Goes on with the answer to the question. -/
def Plan.resume (plan : Plan) (migration : Migration σ) (count : Nat) (store : σ)
    (notices : List Notice) (answer : Except String Bool) : Run σ :=
  let notices := notices ++ [.asked count]
  match answer with
  | .error text => ⟨store, notices, .error (.answerFailed text)⟩
  | .ok false => ⟨store, notices ++ [.note "Migration cancelled"], .ok (notApplied count)⟩
  | .ok true => plan.finish migration count store notices

def Plan.run (plan : Plan) (migration : Migration σ) (confirm : Nat → Except String Bool)
    (store : σ) : Run σ :=
  match plan.prepare migration store with
  | .finished run => run
  | .question count store notices => plan.resume migration count store notices (confirm count)

end DocumentMigration
