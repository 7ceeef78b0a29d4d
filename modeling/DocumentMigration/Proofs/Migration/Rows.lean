import DocumentMigration.Migration.Basic
import DocumentMigration.Store.Memory
import DocumentMigration.Proofs.Change.Apply
import DocumentMigration.Proofs.Template.Contract
import DocumentMigration.Proofs.Template.Evaluate

/-! The rows of an update tell the truth: what they show as old was read before, and what they show
as new is read afterwards, unless a later change of the row overlaps it. -/
namespace DocumentMigration

open Json

/-- The row of a document under an update template. -/
structure DocumentChange.Truthful (t : CompiledTemplate) (d : Snapshot) (row : DocumentChange) :
    Prop where
  document : row.documentId = d.id
  before : row.before = some d.data
  changes : List.Forall₂ (AttributeTemplate.Evaluated d.data) t.attributes row.changes
  after : ∃ after, row.after = some after ∧ ∀ earlier c later,
    row.changes = earlier ++ c :: later →
    (∀ e ∈ later, Path.overlap e.path c.path = false) →
      (c.operation ≠ .delete → Path.read? after c.path = c.newValue) ∧
      (c.operation = .delete →
        Path.read? after c.path = none ∨ Path.read? after c.path = some .null)

namespace CompiledTemplate

theorem truthful_of_previewOne {t : CompiledTemplate} {d : Snapshot} {row : DocumentChange}
    (update : t.operation = .update) (valid : ∀ a ∈ t.attributes, Path.isValid a.path)
    (shown : t.previewOne d = .ok row) : row.Truthful t d := by
  obtain ⟨changes, after, made, rfl⟩ := (previewOne_update_eq_ok_iff update).mp shown
  obtain ⟨evaluated, applied⟩ := transform_eq_ok_iff.mp made
  have each := evaluated_of_evaluate evaluated
  refine ⟨rfl, rfl, each, after, rfl, ?_⟩
  rintro earlier c later split last
  have split : changes = earlier ++ c :: later := split
  have member : c ∈ changes := by simp [split]
  obtain ⟨a, inTemplate, change⟩ := Except.exists_of_mem_mapM evaluated member
  have change := AttributeTemplate.evaluated_of_evaluate change
  have hvalid : Path.isValid c.path := by
    rw [change.path]
    exact valid a inTemplate
  rw [split] at applied
  obtain ⟨written, deleted⟩ := Change.read?_applied applied hvalid last
  constructor
  · intro writes
    obtain ⟨v, value, _⟩ := change.newValue writes
    rw [written writes, value, Option.getD_some]
  · intro deletes
    exact (deleted deletes).imp id And.right

/-- Every document that an update matches has one row, and the row is truthful. -/
theorem preview_truthful {σ : Type} [DocumentStore σ] {t : Template} {compiled : CompiledTemplate}
    (compiles : t.compile = .ok compiled) (update : t.operation = .update) {s s' : σ}
    {rows : List DocumentChange} (previewed : compiled.preview.run s = (.ok rows, s')) :
    ∃ documents, compiled.accepted.run s = (.ok documents, s') ∧
      List.Forall₂ (fun d row => row.Truthful compiled d) documents rows := by
  obtain ⟨keeps, rfl⟩ := Template.compile_eq_ok_iff.mp compiles
  obtain ⟨documents, next, listed, shown⟩ := Action.run_bind_eq_ok_iff.mp previewed
  rw [Action.run_mk_pure, Prod.mk.injEq] at shown
  obtain ⟨shown, rfl⟩ := shown
  refine ⟨documents, listed, ?_⟩
  have valid : ∀ a ∈ t.compiled.attributes, Path.isValid a.path := by
    obtain deletes | ⟨changes, found, valid, _⟩ := keeps
    · simp [deletes] at update
    · simpa [Template.compiled, Template.attributes, update, found] using valid
  exact (Except.mapM_eq_ok_iff.mp shown).imp fun d row => truthful_of_previewOne update valid

end CompiledTemplate

namespace Sample

def posts : MemoryStore :=
  .ofCollection "posts" [⟨"p1", [("draft", .bool true), ("tags", .array [.string "a"])]⟩] ⟨0⟩

/-- Drops a member, fills an array up to the index that `02` names, and makes an object. -/
def tagging : Template :=
  { operation := .update, collection := "posts"
    changes := some [{ path := "draft", operation := .delete },
      { path := "tags.02", operation := .update },
      { path := "meta.kind", operation := .create, value := some (.literal (.string "post")) }] }

def taggedRow : DocumentChange :=
  { operation := .update, documentId := "p1", collection := "posts"
    before := some [("draft", .bool true), ("tags", .array [.string "a"])]
    after := some [("meta", .object [("kind", .string "post")]),
      ("tags", .array [.string "a", .null, .null])]
    changes := [⟨"draft", .delete, some (.bool true), none⟩,
      ⟨"tags.02", .update, none, some .null⟩,
      ⟨"meta.kind", .create, none, some (.string "post")⟩] }

theorem preview_truthful_of_tagging :
    tagging.compiled.preview.run posts = (.ok [taggedRow], { posts with reads := 1 }) ∧
      ∃ documents,
        tagging.compiled.accepted.run posts = (.ok documents, { posts with reads := 1 }) ∧
          List.Forall₂ (fun d row => row.Truthful tagging.compiled d) documents [taggedRow] := by
  have compiles : tagging.compile = .ok tagging.compiled := rfl
  have previewed : tagging.compiled.preview.run posts =
    (.ok [taggedRow], { posts with reads := 1 }) := rfl
  exact ⟨previewed, CompiledTemplate.preview_truthful compiles rfl previewed⟩

end Sample

end DocumentMigration
