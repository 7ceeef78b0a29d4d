import DocumentMigration.Proofs.Files.Tree
import DocumentMigration.Proofs.Json.Pretty
import DocumentMigration.Schema.Files

/-! A schema in a file is read as it was written, up to the nesting limit. -/
namespace DocumentMigration.SchemaFiles

open Json

variable {t t' : FileTree} {location : String} {v : Value}

theorem write_eq_ok_iff : (write location v).run t = (.ok (), t') ↔
    (FileTree.makeParents location >>= fun _ => FileTree.writeText location v.pretty).run t =
      (.ok (), t') := by
  unfold write
  rcases ended : (FileTree.makeParents location >>= fun _ =>
    FileTree.writeText location v.pretty).run t with ⟨_ | ⟨⟩, next⟩
  all_goals
    rw [Action.run, ExceptT.run]
    simp only [ended]
    simp

/-- What was written stands in the file, and nothing else has gone. -/
theorem write_eq_ok (done : (write location v).run t = (.ok (), t')) :
    t.Extends t' ∧ t'.at? location = some (.text v.pretty) := by
  obtain ⟨⟨⟩, opened, made, written⟩ :=
    Action.run_bind_eq_ok_iff.mp (write_eq_ok_iff.mp done)
  have grown : t.Extends opened := by
    have grown := FileTree.extends_makeParents location t
    rwa [made] at grown
  rw [FileTree.writeText, FileTree.run_write] at written
  split at written
  · next place aimed =>
    cases written
    exact ⟨grown.trans (FileTree.extends_put_target aimed _), FileTree.at?_put aimed _⟩
  · cases written

/-- A collection has its file where it was written. -/
theorem collectionFile_of_write {base collection : String}
    (done : (write (collectionFile t base collection) v).run t = (.ok (), t')) :
    collectionFile t' base collection = collectionFile t base collection := by
  obtain ⟨grown, written⟩ := write_eq_ok done
  unfold collectionFile at written ⊢
  by_cases folder : t.isDirectory base
  · rw [if_pos folder, if_pos (grown.isDirectory folder)]
  · rw [if_neg folder] at written ⊢
    rw [FileTree.isDirectory, written]
    rfl

/-- A file that holds a value gives it back if its floats come back, unless it is nested too
deeply. -/
theorem read_of_text [FloatReader] (canonical : v.Canonical) (steady : v.Steady)
    (here : t.at? location = some (.text v.pretty)) :
    read t location =
      if v.depth ≤ nestingLimit then .ok v else .error (.malformed location) := by
  unfold read FileTree.contains FileTree.readText
  rw [here]
  simp only [Option.isSome_some, Bool.not_true, Bool.false_eq_true, if_false, Value.parse?,
    Value.ofText?_pretty nestingLimit canonical, show v.reread = some v from steady]
  by_cases shallow : v.depth ≤ nestingLimit
  · rw [if_pos shallow, if_pos shallow]
  · rw [if_neg shallow, if_neg shallow]

end DocumentMigration.SchemaFiles
