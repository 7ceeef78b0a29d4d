import DocumentMigration.Command.Desk
import DocumentMigration.Output.Question
import DocumentMigration.Record.Row
import DocumentMigration.Script.Load

/-!
The command that migrates: it loads a script, prints what would change, asks, and applies it.
-/
namespace DocumentMigration

open Json

def Plan.ofSettings (summarize yes dryRun : Bool) (m : MigrateSettings) : Plan where
  summarize := summarize || m.summarize
  assumeYes := yes || m.assumeYes
  dryRun := dryRun
  maxBatchSize := m.maxBatchSize

namespace Manner

def answer (manner : Manner) (v : Value) : Print :=
  .out (render manner.format v manner.style ++ "\n")

/-- A notice as it is printed. A quiet run shows the question alone. -/
def notice? (manner : Manner) : Notice → Option Print
  | .asked count => some (.aside (Question.prompt ("Apply " ++ toString count ++ " changes?")))
  | .note text => if manner.quiet then none else some (.aside (text ++ "\n"))
  | .documents rows =>
    if manner.quiet then none else some (manner.answer (.array (rows.map DocumentRow.encode)))
  | .groups rows =>
    if manner.quiet then none else some (manner.answer (.array (rows.map GroupRow.encode)))

/-- What a run prints: the notices from a number on, and its report. -/
def prints (manner : Manner) (seen : Nat) (run : Run σ) : List Print :=
  (run.notices.drop seen).filterMap manner.notice?
    ++ match run.result with
      | .ok report => [manner.answer report.encode]
      | .error _ => []

end Manner
end DocumentMigration
