import DocumentMigration.Proofs.Change.Summary
import DocumentMigration.Proofs.Migration.Migrate
import DocumentMigration.Proofs.Record.Text
import DocumentMigration.Proofs.Template.Canonical
import DocumentMigration.Store.Memory

/-!
The rows of a preview, and the groups of their summary, written and read again. The documents come
back as they were, but for the floats that the reader takes for others. A null among the old and new
values does not: it is read as an absent value, and a row has one just when an attribute of its
template reads or writes a null.
-/
namespace DocumentMigration

open Json Record

namespace AttributeTemplate

variable {a : AttributeTemplate} {document : Object} {c : AttributeChange}

/-- What the attribute reads or writes at the document is there and null. -/
def MeetsNull (a : AttributeTemplate) (document : Object) : Prop :=
  (a.operation ≠ .create ∧ Path.read? document a.path = some .null) ∨
    (a.operation ≠ .delete ∧ a.Resolves document .null)

theorem plain_iff_of_evaluate (made : a.evaluate document = .ok c) :
    c.Plain ↔ ¬ a.MeetsNull document := by
  obtain ⟨value, resolved, rfl⟩ := evaluate_eq_ok_iff.mp made
  have old : (a.writing document value).oldValue = some .null ↔
      a.operation ≠ .create ∧ Path.read? document a.path = some .null := by
    cases operation : a.operation <;> simp [writing, operation, Operation.readsOldValue]
  have new : value = some .null ↔ a.operation ≠ .delete ∧ a.Resolves document .null := by
    have same : value = some .null ↔ a.newValue document = .ok (some .null) := by
      rw [resolved, Except.ok.injEq]
    rw [same, newValue_eq_ok_iff]
    simp
  rw [MeetsNull, not_or, ← old, ← new]
  exact ⟨fun plain => ⟨plain.oldValue, plain.newValue⟩, fun both => ⟨both.1, both.2⟩⟩

theorem canonical_of_evaluate (canonical : (Value.object document).Canonical)
    (writes : a.WritesCanonical) (made : a.evaluate document = .ok c) : c.Canonical := by
  obtain ⟨value, resolved, rfl⟩ := evaluate_eq_ok_iff.mp made
  constructor
  · intro v found
    have found :
        (if a.operation.readsOldValue then Path.read? document a.path else none) = some v := found
    split at found
    · exact canonical.follow? found
    · cases found
  · intro v found
    rcases newValue_eq_ok_iff.mp resolved with ⟨-, rfl⟩ | ⟨-, w, rfl, resolves⟩
    · cases found
    · cases found
      exact writes document v canonical resolves

end AttributeTemplate

namespace Template

variable {t : Template} {d : Snapshot} {row : DocumentChange}

theorem evaluate_of_previewOne (shown : t.compiled.previewOne d = .ok row) :
    t.compiled.evaluate d.data = .ok row.changes := by
  unfold CompiledTemplate.previewOne at shown
  split at shown
  next deletes =>
    cases shown
    have deletes : t.operation = .delete := deletes
    simp [CompiledTemplate.evaluate, compiled, attributes, deletes, pure, Except.pure]
  all_goals
    obtain ⟨⟨changes, after⟩, made, rfl⟩ := Except.map_eq_ok_iff.mp shown
    exact (CompiledTemplate.transform_eq_ok_iff.mp made).1

theorem canonical_of_previewOne (shown : t.compiled.previewOne d = .ok row)
    (canonical : (Value.object d.data).Canonical) (writes : t.compiled.WritesCanonical) :
    row.Canonical := by
  have changes : ∀ c ∈ row.changes, c.Canonical := by
    intro c member
    obtain ⟨a, inTemplate, made⟩ :=
      Except.exists_of_mem_mapM (evaluate_of_previewOne shown) member
    exact AttributeTemplate.canonical_of_evaluate canonical (writes a inTemplate) made
  unfold CompiledTemplate.previewOne at shown
  split at shown
  next =>
    cases shown
    exact ⟨fun ms found => Option.some.inj found ▸ canonical, nofun, changes⟩
  all_goals
    obtain ⟨⟨made, after⟩, transformed, rfl⟩ := Except.map_eq_ok_iff.mp shown
    have ordered := CompiledTemplate.canonical_transform writes canonical transformed
  · exact ⟨fun ms found => Option.some.inj found ▸ canonical,
      fun ms found => Option.some.inj found ▸ ordered, changes⟩
  · exact ⟨nofun, fun ms found => Option.some.inj found ▸ ordered, changes⟩

theorem withoutNulls_iff_of_previewOne (shown : t.compiled.previewOne d = .ok row) :
    row.WithoutNulls ↔ ∀ a ∈ t.attributes, ¬ a.MeetsNull d.data := by
  have related := Except.mapM_eq_ok_iff.mp (evaluate_of_previewOne shown)
  refine (forall_iff_of_forall₂ (q := AttributeChange.Plain) (fun a c made => ?_) related).symm
  exact (AttributeTemplate.plain_iff_of_evaluate made).symm

end Template

theorem exists_previewOne_of_mem {σ : Type} [DocumentStore σ] {templates : List Template}
    {rows : List DocumentChange} {s s' : σ} (shown : (previewAll templates).run s = (.ok rows, s'))
    {row : DocumentChange} (member : row ∈ rows) :
    ∃ t ∈ templates, ∃ d, t.compiled.previewOne d = .ok row := by
  obtain ⟨-, parts, each, rfl⟩ := previewAll_eq_ok shown
  obtain ⟨part, inParts, inPart⟩ := List.mem_flatten.mp member
  obtain ⟨c, compiled, before, after, previewed⟩ := Action.exists_of_mem_run_mapM each inParts
  obtain ⟨t, inTemplates, rfl⟩ := List.mem_map.mp compiled
  obtain ⟨documents, next, -, made⟩ := Action.run_bind_eq_ok_iff.mp previewed
  rw [Action.run_mk_pure, Prod.mk.injEq] at made
  obtain ⟨d, -, one⟩ := Except.exists_of_mem_mapM made.1 inPart
  exact ⟨t, inTemplates, d, one⟩

/-- A record of what a template shows at a document, as it is read from the value and from the texts
that are written for it. From the value it is the same record just when no attribute meets a null;
from a text that is not nested too deeply it is the record whose floats are what the reader takes
theirs for, and that one is the same where they all come back. -/
structure Rereads [FloatReader] {α : Type} (t : Template) (d : Snapshot)
    (decode : Value → Decoded α) (written : Value) (shown read : α) (reread : Option α) : Prop where
  value : decode written = .ok read
  text : (Value.object d.data).Canonical → t.compiled.WritesCanonical →
    ∀ text, written.IsText text → (Value.parse? text).map decode =
      if written.depth ≤ nestingLimit then reread.map .ok else none
  steady : written.Steady → reread = some read
  same : read = shown ↔ ∀ a ∈ t.attributes, ¬ a.MeetsNull d.data

section Rereads

variable [FloatReader] {t : Template} {d : Snapshot} {row : DocumentChange}

/-- Where the floats of a record come back, what is read is the record without its nulls. -/
theorem map_eq_of_steady {α : Type} {encode : α → Value} {decode : Value → Decoded α}
    {strip : α → α} (returns : ∀ a, decode (encode a) = .ok (strip a)) {a : α} {reread : Option α}
    (same : (encode a).reread = reread.map encode) (steady : (encode a).Steady) :
    reread.map strip = some (strip a) := by
  obtain ⟨b, rfl, alike⟩ := Option.map_eq_some_iff.mp (same.symm.trans steady)
  have stripped : (.ok (strip b) : Decoded α) = .ok (strip a) := by
    rw [← returns, alike, returns]
  exact congrArg some (Except.ok.inj stripped)

theorem DocumentChange.rereads (shown : t.compiled.previewOne d = .ok row) :
    Rereads t d decode row.encode row row.withoutNulls (row.reread.map withoutNulls) where
  value := row.decode_encode
  text canonical writes _ written := by
    have ordered := Template.canonical_of_previewOne shown canonical writes
    exact written.map_parse? row.reread_encode fun c read =>
      decode_sorted (canonical_of_reread ordered read)
  steady := map_eq_of_steady decode_encode row.reread_encode
  same := withoutNulls_eq_self_iff.trans (Template.withoutNulls_iff_of_previewOne shown)

theorem ChangeGroup.rereads {g : ChangeGroup} (first : g.change = row.shape)
    (shown : t.compiled.previewOne d = .ok row) :
    Rereads t d decode g.encode g g.withoutNulls (g.reread.map withoutNulls) where
  value := g.decode_encode
  text canonical writes _ written := by
    have ordered : g.Canonical := by
      rw [Canonical, first]
      exact Template.canonical_of_previewOne shown canonical writes
    exact written.map_parse? g.reread_encode fun h read =>
      decode_sorted (canonical_of_reread ordered read)
  steady := map_eq_of_steady decode_encode g.reread_encode
  same := by
    rw [withoutNulls_eq_self_iff, Plain, first]
    exact Template.withoutNulls_iff_of_previewOne shown

end Rereads

theorem previewAll_reads_back [FloatReader] {σ : Type} [DocumentStore σ]
    {templates : List Template} {rows : List DocumentChange} {s s' : σ}
    (shown : (previewAll templates).run s = (.ok rows, s')) :
    (∀ row ∈ rows, ∃ t ∈ templates, ∃ d, t.compiled.previewOne d = .ok row ∧
      Rereads t d DocumentChange.decode row.encode row row.withoutNulls
        (row.reread.map DocumentChange.withoutNulls)) ∧
    ∀ g ∈ summarize rows, ∃ row ∈ rows, g.change = row.shape ∧
      ∃ t ∈ templates, ∃ d, t.compiled.previewOne d = .ok row ∧
        Rereads t d ChangeGroup.decode g.encode g g.withoutNulls
          (g.reread.map ChangeGroup.withoutNulls) := by
  constructor
  · intro row member
    obtain ⟨t, inTemplates, d, one⟩ := exists_previewOne_of_mem shown member
    exact ⟨t, inTemplates, d, one, DocumentChange.rereads one⟩
  · intro g member
    obtain ⟨row, inRows, members, rfl⟩ := (groups_summarize rows).exists_of_mem member
    obtain ⟨t, inTemplates, d, one⟩ := exists_previewOne_of_mem shown inRows
    exact ⟨row, inRows, rfl, t, inTemplates, d, one, ChangeGroup.rereads rfl one⟩

namespace Sample

attribute [local instance] FloatReader.exact

def patients : MemoryStore :=
  .ofCollection "patients" [⟨"p1", [("phone", .null), ("ward", .string "a")]⟩] ⟨0⟩

def transfer : Template :=
  { operation := .update, collection := "patients"
    changes := some [⟨"ward", .update, some (.literal (.string "b"))⟩] }

/-- The row of the one patient, of whom only the ward changes. -/
def transferRow : DocumentChange :=
  { operation := .update, documentId := "p1", collection := "patients"
    before := some [("phone", .null), ("ward", .string "a")]
    after := some [("phone", .null), ("ward", .string "b")]
    changes := [⟨"ward", .update, some (.string "a"), some (.string "b")⟩] }

theorem transferRow_reads_back :
    (previewAll [transfer]).run patients = (.ok [transferRow], { patients with reads := 1 }) ∧
      DocumentChange.decode transferRow.encode = .ok transferRow := by
  have shown : (previewAll [transfer]).run patients =
    (.ok [transferRow], { patients with reads := 1 }) := rfl
  refine ⟨shown, ?_⟩
  obtain ⟨rows, -⟩ := previewAll_reads_back shown
  obtain ⟨t, inTemplates, d, one, rereads⟩ := rows transferRow List.mem_cons_self
  cases List.mem_singleton.mp inTemplates
  obtain ⟨changes, after, -, row⟩ :=
    (CompiledTemplate.previewOne_update_eq_ok_iff rfl).mp one
  have data : d.data = [("phone", .null), ("ward", .string "a")] := by
    simpa [transferRow] using (congrArg DocumentChange.before row).symm
  rw [rereads.value, Except.ok.injEq, rereads.same, data]
  intro a member meets
  cases List.mem_singleton.mp member
  rcases meets with ⟨-, old⟩ | ⟨-, ⟨⟨⟩⟩ | ⟨⟨⟩, resolved⟩⟩
  · have ward : some (.string "a") = some Value.null := old
    cases ward
  · cases resolved

/-- Without a value, the update writes a null. -/
def hangUp : Template :=
  { operation := .update, collection := "patients", changes := some [⟨"phone", .update, none⟩] }

def hangUpRow : DocumentChange :=
  { operation := .update, documentId := "p1", collection := "patients"
    before := some [("phone", .null), ("ward", .string "a")]
    after := some [("phone", .null), ("ward", .string "a")]
    changes := [⟨"phone", .update, some .null, some .null⟩] }

/-- Both nulls are read as absent values. -/
theorem hangUpRow_loses_nulls :
    (previewAll [hangUp]).run patients = (.ok [hangUpRow], { patients with reads := 1 }) ∧
      DocumentChange.decode hangUpRow.encode =
        .ok { hangUpRow with changes := [⟨"phone", .update, none, none⟩] } ∧
      DocumentChange.decode hangUpRow.encode ≠ .ok hangUpRow := by
  refine ⟨rfl, rfl, ?_⟩
  rw [DocumentChange.decode_encode, ne_eq, Except.ok.injEq,
    DocumentChange.withoutNulls_eq_self_iff]
  intro plain
  exact (plain _ List.mem_cons_self).oldValue rfl

end Sample

end DocumentMigration
