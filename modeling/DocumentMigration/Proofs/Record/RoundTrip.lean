import DocumentMigration.Record.Row
import DocumentMigration.Record.Violation
import DocumentMigration.Proofs.Record.Reading

/-!
Records written and read again. Only two things are lost on the way: a value that is there but null
is read as an absent one, and a count is a number of 64 bits. No record that was read from JSON has
such a null or a greater count, so reading one, writing it and reading it again changes nothing.
-/
namespace DocumentMigration

open Json Record

attribute [local simp] bind Except.bind pure Except.pure Except.map

@[simp] theorem Operation.decode_encode (o : Operation) : Operation.decode o.encode = .ok o := by
  cases o <;> rfl

@[simp] theorem Comparison.decode_encode (c : Comparison) : Comparison.decode c.encode = .ok c := by
  cases c <;> rfl

theorem Snapshot.decode_encode (s : Snapshot) : Snapshot.decode s.encode = .ok s := by
  simp [decode, encode, record, member, required, Object.get?]

theorem Snapshot.settles : Settles decode encode := fun _ s _ => s.decode_encode

/-! Changes. -/

namespace AttributeChange

variable {c : AttributeChange}

def withoutNulls (c : AttributeChange) : AttributeChange :=
  { c with oldValue := c.oldValue.bind Value.given, newValue := c.newValue.bind Value.given }

/-- What is there is no null. -/
structure Plain (c : AttributeChange) : Prop where
  oldValue : c.oldValue ≠ some .null
  newValue : c.newValue ≠ some .null

theorem withoutNulls_eq_self_iff : c.withoutNulls = c ↔ c.Plain := by
  obtain ⟨path, operation, oldValue, newValue⟩ := c
  rw [withoutNulls, AttributeChange.mk.injEq]
  simp only [Value.bind_given_eq_self_iff, true_and]
  exact ⟨fun ⟨old, new⟩ => ⟨old, new⟩, fun plain => ⟨plain.oldValue, plain.newValue⟩⟩

theorem map_withoutNulls_eq_self_iff {changes : List AttributeChange} :
    changes.map withoutNulls = changes ↔ ∀ c ∈ changes, c.Plain := by
  induction changes with
  | nil => simp
  | cons c changes ih =>
    simp only [List.map_cons, List.cons.injEq, withoutNulls_eq_self_iff, ih, List.forall_mem_cons]

theorem decode_encode (c : AttributeChange) : decode c.encode = .ok c.withoutNulls := by
  rcases c with ⟨path, operation, _ | old, _ | new⟩ <;>
    simp [decode, encode, Record.fields, record, member, required, Object.get?, withoutNulls]

theorem each_decode_encode (changes : List AttributeChange) :
    each decode (encodeChanges changes) = .ok (changes.map withoutNulls) :=
  each_map changes fun c _ => c.decode_encode

theorem yields_decode : (v : Value) → Yields Plain (decode v) :=
  yields_record
    (fun _ => .bind (yields_member yields_nullable_any _ _) fun _ new =>
      .bind (yields_member yields_nullable_any _ _) fun _ old =>
      .skip fun _ => .skip fun _ => .skip fun _ => .skip fun _ =>
      .pure ⟨join_ne_some old, join_ne_some new⟩)
    (.skip fun _ => .skip fun _ =>
      .bind (yields_nextItemOr nofun yields_nullable_any) fun _ old =>
      .bind (yields_nextItemOr nofun yields_nullable_any) fun _ new => .pure ⟨old, new⟩)

theorem settles : Settles decode encode :=
  .of_yields yields_decode fun c plain => by
    rw [c.decode_encode, withoutNulls_eq_self_iff.mpr plain]

end AttributeChange

namespace ChangeShape

def withoutNulls (s : ChangeShape) : ChangeShape :=
  { s with changes := s.changes.map AttributeChange.withoutNulls }

def Plain (s : ChangeShape) : Prop := ∀ c ∈ s.changes, c.Plain

theorem withoutNulls_eq_self_iff {s : ChangeShape} : s.withoutNulls = s ↔ s.Plain := by
  obtain ⟨operation, collection, before, after, changes⟩ := s
  rw [withoutNulls, ChangeShape.mk.injEq, Plain]
  simp only [AttributeChange.map_withoutNulls_eq_self_iff, true_and]

theorem decode_encode (s : ChangeShape) : decode s.encode = .ok s.withoutNulls := by
  rcases s with ⟨operation, collection, _ | before, _ | after, changes⟩ <;>
    simp [decode, encode, Record.fields, record, member, required, Object.get?, withoutNulls,
      AttributeChange.each_decode_encode]

theorem yields_decode : (v : Value) → Yields Plain (decode v) :=
  yields_record
    (fun _ => .skip fun _ => .skip fun _ =>
      .bind (yields_member (yields_each AttributeChange.yields_decode) _ _) fun _ changes =>
      .skip fun _ => .skip fun _ => .skip fun _ => .skip fun _ =>
      .pure (forall_mem_getD changes))
    (.skip fun _ => .skip fun _ => .skip fun _ => .skip fun _ =>
      .bind (yields_nextItemOr nofun (yields_each AttributeChange.yields_decode)) fun _ changes =>
      .pure changes)

theorem settles : Settles decode encode :=
  .of_yields yields_decode fun s plain => by
    rw [s.decode_encode, withoutNulls_eq_self_iff.mpr plain]

end ChangeShape

namespace DocumentChange

def withoutNulls (c : DocumentChange) : DocumentChange :=
  { c with changes := c.changes.map AttributeChange.withoutNulls }

def WithoutNulls (c : DocumentChange) : Prop := ∀ change ∈ c.changes, change.Plain

theorem withoutNulls_eq_self_iff {c : DocumentChange} : c.withoutNulls = c ↔ c.WithoutNulls := by
  obtain ⟨operation, documentId, collection, before, after, changes⟩ := c
  rw [withoutNulls, DocumentChange.mk.injEq, WithoutNulls]
  simp only [AttributeChange.map_withoutNulls_eq_self_iff, true_and]

theorem decode_encode (c : DocumentChange) : decode c.encode = .ok c.withoutNulls := by
  rcases c with ⟨operation, documentId, collection, _ | before, _ | after, changes⟩ <;>
    simp [decode, encode, Record.fields, record, member, required, Object.get?, withoutNulls,
      AttributeChange.each_decode_encode]

theorem yields_decode : (v : Value) → Yields WithoutNulls (decode v) :=
  yields_record
    (fun _ => .skip fun _ => .skip fun _ =>
      .bind (yields_member (yields_each AttributeChange.yields_decode) _ _) fun _ changes =>
      .skip fun _ => .skip fun _ => .skip fun _ => .skip fun _ => .skip fun _ => .skip fun _ =>
      .pure (forall_mem_getD changes))
    (.skip fun _ => .skip fun _ => .skip fun _ => .skip fun _ => .skip fun _ =>
      .bind (yields_nextItemOr nofun (yields_each AttributeChange.yields_decode)) fun _ changes =>
      .pure changes)

theorem settles : Settles decode encode :=
  .of_yields yields_decode fun c plain => by
    rw [c.decode_encode, withoutNulls_eq_self_iff.mpr plain]

end DocumentChange

namespace ChangeGroup

def withoutNulls (g : ChangeGroup) : ChangeGroup := { g with change := g.change.withoutNulls }

def Plain (g : ChangeGroup) : Prop := g.change.Plain

theorem withoutNulls_eq_self_iff {g : ChangeGroup} : g.withoutNulls = g ↔ g.Plain := by
  obtain ⟨collection, documentIds, change⟩ := g
  rw [withoutNulls, ChangeGroup.mk.injEq, Plain]
  simp only [ChangeShape.withoutNulls_eq_self_iff, true_and]

theorem decode_encode (g : ChangeGroup) : decode g.encode = .ok g.withoutNulls := by
  simp [decode, encode, record, member, required, Object.get?, withoutNulls,
    ChangeShape.decode_encode]

theorem yields_decode : (v : Value) → Yields Plain (decode v) :=
  yields_record
    (fun _ => .bind (yields_member ChangeShape.yields_decode _ _) fun _ plain =>
      .skip fun _ => .skip fun _ => .skip fun _ => .skip fun _ =>
      .bind (yields_required plain) fun _ plain => .pure plain)
    (.skip fun _ => .skip fun _ =>
      .bind (yields_nextItem _ ChangeShape.yields_decode) fun _ plain => .pure plain)

theorem settles : Settles decode encode :=
  .of_yields yields_decode fun g plain => by
    rw [g.decode_encode, withoutNulls_eq_self_iff.mpr plain]

end ChangeGroup

/-! Rows, outcomes and reports. -/

theorem each_decode_encode_operations (operations : List Operation) :
    each Operation.decode (.array (operations.map Operation.encode)) = .ok operations :=
  each_map_self operations fun o _ => o.decode_encode

theorem DocumentRow.decode_encode (r : DocumentRow) : decode r.encode = .ok r := by
  simp [decode, encode, record, member, required, Object.get?, ChangeColumns.encode,
    ChangeColumns.decodeMembers, each_decode_encode_operations]

theorem DocumentRow.settles : Settles decode encode := fun _ r _ => r.decode_encode

namespace GroupRow

variable {r : GroupRow}

/-- The count is kept apart as any value that reads as it. -/
theorem decode_object {count : Value} (counted : Record.count count = .ok r.count) :
    decode (.object ([("collection", .string r.collection), ("count", count),
      ("documents", .ofStrings r.documents), ("operation", r.operation.encode)] ++
        r.columns.encode)) = .ok r := by
  simp [decode, record, member, required, Object.get?, ChangeColumns.encode,
    ChangeColumns.decodeMembers, each_decode_encode_operations, counted]

theorem decode_encode (counted : r.count < 2 ^ (64 : Nat)) : decode r.encode = .ok r :=
  decode_object (count_nat counted)

theorem yields_decode : (v : Value) → Yields (·.count < 2 ^ (64 : Nat)) (decode v) :=
  yields_record
    (fun _ => .skip fun _ => .skip fun _ =>
      .bind (yields_member yields_count _ _) fun _ counted =>
      .skip fun _ => .skip fun _ => .skip fun _ =>
      .bind (yields_required counted) fun _ counted =>
      .skip fun _ => .skip fun _ => .skip fun _ => .skip fun _ => .skip fun _ => .skip fun _ =>
      .pure counted)
    (.skip fun _ => .bind (yields_nextItem _ yields_count) fun _ counted =>
      .skip fun _ => .skip fun _ => .skip fun _ => .pure counted)

theorem settles : Settles decode encode := .of_yields yields_decode fun _ => decode_encode

end GroupRow

namespace Outcome

variable {o : Outcome}

/-- Both counts have 64 bits. -/
structure Counted (o : Outcome) : Prop where
  written : o.written < 2 ^ (64 : Nat)
  batches : o.batches < 2 ^ (64 : Nat)

theorem decode_object {written batches : Value} (first : count written = .ok o.written)
    (second : count batches = .ok o.batches) :
    decode (.object [("collection_path", .string o.collection), ("operation", o.operation.encode),
      ("written", written), ("batches", batches)]) = .ok o := by
  simp [decode, record, member, required, Object.get?, first, second]

theorem decode_encode (counted : o.Counted) : decode o.encode = .ok o :=
  decode_object (count_nat counted.written) (count_nat counted.batches)

theorem yields_decode : (v : Value) → Yields Counted (decode v) :=
  yields_record
    (fun _ => .bind (yields_member yields_count _ _) fun _ batches =>
      .skip fun _ => .skip fun _ => .bind (yields_member yields_count _ _) fun _ written =>
      .skip fun _ => .skip fun _ => .bind (yields_required written) fun _ written =>
      .bind (yields_required batches) fun _ batches => .pure ⟨written, batches⟩)
    (.skip fun _ => .skip fun _ => .bind (yields_nextItem _ yields_count) fun _ written =>
      .bind (yields_nextItem _ yields_count) fun _ batches => .pure ⟨written, batches⟩)

theorem settles : Settles decode encode := .of_yields yields_decode fun _ => decode_encode

end Outcome

namespace MigrationReport

variable {r : MigrationReport}

structure Counted (r : MigrationReport) : Prop where
  previewed : r.previewed < 2 ^ (64 : Nat)
  outcomes : ∀ o ∈ r.outcomes, o.Counted

theorem decode_object {previewed : Value} (counted : count previewed = .ok r.previewed)
    (outcomes : ∀ o ∈ r.outcomes, o.Counted) :
    decode (.object [("previewed", previewed), ("applied", .bool r.applied),
      ("outcomes", .array (r.outcomes.map Outcome.encode))]) = .ok r := by
  have listed : each Outcome.decode (.array (r.outcomes.map Outcome.encode)) = .ok r.outcomes :=
    each_map_self r.outcomes fun o member => Outcome.decode_encode (outcomes o member)
  simp [decode, record, member, required, Object.get?, counted, listed]

theorem decode_encode (counted : r.Counted) : decode r.encode = .ok r :=
  decode_object (count_nat counted.previewed) counted.outcomes

theorem yields_decode : (v : Value) → Yields Counted (decode v) :=
  yields_record
    (fun _ => .skip fun _ =>
      .bind (yields_member (yields_each Outcome.yields_decode) _ _) fun _ outcomes =>
      .bind (yields_member yields_count _ _) fun _ previewed =>
      .bind (yields_required previewed) fun _ previewed => .skip fun _ =>
      .bind (yields_required outcomes) fun _ outcomes => .pure ⟨previewed, outcomes⟩)
    (.bind (yields_nextItem _ yields_count) fun _ previewed => .skip fun _ =>
      .bind (yields_nextItem _ (yields_each Outcome.yields_decode)) fun _ outcomes =>
      .pure ⟨previewed, outcomes⟩)

theorem settles : Settles decode encode := .of_yields yields_decode fun _ => decode_encode

end MigrationReport

/-! Scripts. -/

namespace Condition

theorem decode_encode {c : Condition} (plain : c.value ≠ some .null) :
    decode c.encode = .ok c := by
  rcases c with ⟨path, comparison, _ | value⟩
  · simp [decode, encode, Record.fields, record, member, required, Object.get?]
  · have given : value.given = some value := Value.bind_given_eq_self_iff.mpr plain
    simp [decode, encode, Record.fields, record, member, required, Object.get?, given]

theorem yields_decode : (v : Value) → Yields (·.value ≠ some .null) (decode v) :=
  yields_record
    (fun _ => .skip fun _ => .skip fun _ =>
      .bind (yields_member yields_nullable_any _ _) fun _ plain =>
      .skip fun _ => .skip fun _ => .pure (join_ne_some plain))
    (.skip fun _ => .skip fun _ =>
      .bind (yields_nextItemOr nofun yields_nullable_any) fun _ plain => .pure plain)

theorem settles : Settles decode encode := .of_yields yields_decode fun _ => decode_encode

end Condition

namespace ScriptAttribute

theorem decode_encode {a : ScriptAttribute} (plain : a.value ≠ some .null) :
    decode a.encode = .ok a := by
  rcases a with ⟨path, operation, _ | value, copyFrom⟩
  · cases copyFrom <;>
      simp [decode, encode, Record.fields, record, member, required, Object.get?]
  · have given : value.given = some value := Value.bind_given_eq_self_iff.mpr plain
    cases copyFrom <;>
      simp [decode, encode, Record.fields, record, member, required, Object.get?, given]

theorem yields_decode : (v : Value) → Yields (·.value ≠ some .null) (decode v) :=
  yields_record
    (fun _ => .skip fun _ => .skip fun _ => .skip fun _ =>
      .bind (yields_member yields_nullable_any _ _) fun _ plain =>
      .skip fun _ => .skip fun _ => .pure (join_ne_some plain))
    (.skip fun _ => .skip fun _ =>
      .bind (yields_nextItemOr nofun yields_nullable_any) fun _ plain =>
      .skip fun _ => .pure plain)

theorem settles : Settles decode encode := .of_yields yields_decode fun _ => decode_encode

end ScriptAttribute

namespace ScriptTemplate

/-- No value in a condition or an attribute is null. -/
structure Plain (t : ScriptTemplate) : Prop where
  conditions : ∀ c ∈ t.conditions, c.value ≠ some .null
  attributes : ∀ attributes ∈ t.attributes, ∀ a ∈ attributes, a.value ≠ some .null

theorem decode_encode {t : ScriptTemplate} (plain : t.Plain) : decode t.encode = .ok t := by
  obtain ⟨operation, collection, conditions, attributes⟩ := t
  have readConditions := each_map_self conditions fun c member =>
    Condition.decode_encode (plain.conditions c member)
  rcases attributes with _ | attributes
  · cases conditions <;>
      simp_all [decode, encode, Record.fields, record, member, required, Object.get?,
        Object.contains]
  · have readAttributes := each_map_self attributes fun a member =>
      ScriptAttribute.decode_encode (plain.attributes attributes rfl a member)
    cases conditions <;>
      simp_all [decode, encode, Record.fields, record, member, required, Object.get?,
        Object.contains, nullable]

theorem yields_decode : (v : Value) → Yields Plain (decode v) := by
  have list := yields_nullable (yields_each ScriptAttribute.yields_decode)
  refine yields_record (fun ms => .bind (yields_member list _ _) fun attributes first => ?_)
    (.skip fun _ => .skip fun _ =>
      .bind (yields_nextItemOr nofun (yields_each Condition.yields_decode)) fun _ conditions =>
      .bind (yields_nextItemOr nofun list) fun _ attributes => .pure ⟨conditions, attributes⟩)
  split
  · exact nofun
  · refine .bind (yields_member list _ _) fun changes second => .skip fun _ => .skip fun _ =>
      .bind (yields_member (yields_each Condition.yields_decode) _ _) fun _ conditions =>
      .skip fun _ => .skip fun _ => .pure ⟨forall_mem_getD conditions, fun as found => ?_⟩
    cases attributes with
    | none => exact second _ (Option.join_eq_some_iff.mp found) as rfl
    | some read => exact first read rfl as found

theorem settles : Settles decode encode := .of_yields yields_decode fun _ => decode_encode

end ScriptTemplate

namespace ScriptFile

def Plain (f : ScriptFile) : Prop := ∀ templates ∈ f.changes, ∀ t ∈ templates, t.Plain

theorem decode_encode {f : ScriptFile} (plain : f.Plain) : decode f.encode = .ok f := by
  obtain ⟨description, changes⟩ := f
  rcases changes with _ | templates
  · cases description <;>
      simp [decode, encode, Record.fields, record, member, Object.get?, nullable]
  · have readTemplates := each_map_self templates fun t member =>
      ScriptTemplate.decode_encode (plain templates rfl t member)
    cases description <;>
      simp [decode, encode, Record.fields, record, member, Object.get?, nullable, readTemplates]

theorem yields_decode : (v : Value) → Yields Plain (decode v) := by
  have list := yields_nullable (yields_each ScriptTemplate.yields_decode)
  exact yields_record
    (fun _ => .bind (yields_member list _ _) fun _ plain => .skip fun _ =>
      .pure fun templates found => plain _ (Option.join_eq_some_iff.mp found) templates rfl)
    (.skip fun _ => .bind (yields_nextItemOr nofun list) fun _ plain => .pure plain)

theorem settles : Settles decode encode := .of_yields yields_decode fun _ => decode_encode

end ScriptFile

/-! Violations. -/

theorem Violation.decode_encode (v : Violation) : Violation.decode v.encode = .ok v := by
  simp [decode, encode, members, decodeMembers, record, member, required, Object.get?]

theorem Violation.settles : Settles decode encode := fun _ v _ => v.decode_encode

theorem MergedViolation.decode_encode (m : MergedViolation) :
    MergedViolation.decode m.encode = .ok m := by
  simp [decode, encode, Violation.members, Violation.decodeMembers, member, required, Object.get?]

theorem MergedViolation.settles : Settles decode encode := fun _ m _ => m.decode_encode

/-- Whatever was accepted, in any form, is written in one form that is read as the same record. -/
theorem records_settle :
    Settles AttributeChange.decode AttributeChange.encode ∧
    Settles DocumentChange.decode DocumentChange.encode ∧
    Settles ChangeShape.decode ChangeShape.encode ∧
    Settles ChangeGroup.decode ChangeGroup.encode ∧
    Settles Snapshot.decode Snapshot.encode ∧
    Settles DocumentRow.decode DocumentRow.encode ∧
    Settles GroupRow.decode GroupRow.encode ∧
    Settles Outcome.decode Outcome.encode ∧
    Settles MigrationReport.decode MigrationReport.encode ∧
    Settles ScriptFile.decode ScriptFile.encode ∧
    Settles ScriptTemplate.decode ScriptTemplate.encode ∧
    Settles ScriptAttribute.decode ScriptAttribute.encode ∧
    Settles Condition.decode Condition.encode ∧
    Settles Violation.decode Violation.encode ∧
    Settles MergedViolation.decode MergedViolation.encode :=
  ⟨AttributeChange.settles, DocumentChange.settles, ChangeShape.settles, ChangeGroup.settles,
    Snapshot.settles, DocumentRow.settles, GroupRow.settles, Outcome.settles,
    MigrationReport.settles, ScriptFile.settles, ScriptTemplate.settles, ScriptAttribute.settles,
    Condition.settles, Violation.settles, MergedViolation.settles⟩

namespace Sample

/-- A script as it may be written by hand: one template as an array with a null attribute value, one
with its attributes called changes, and members that no record has. -/
def looseScript : Value :=
  .object [("author", .string "ops"),
    ("changes", .array [
      .array [.string "create", .string "users", .array [],
        .array [.array [.string "name", .object [("create", .null)], .null, .string "login"]]],
      .object [("changes", .array [.object [("note", .null), ("operation", .string "update"),
          ("path", .string "age"), ("value", .array [.null])]]),
        ("collection", .string "users"), ("operation", .object [("update", .null)]),
        ("where", .array [.array [.string "age", .string "exists"]])]]),
    ("description", .null)]

def strictScript : ScriptFile :=
  { description := none
    changes := some [
      { operation := .create, collection := "users", conditions := [],
        attributes := some [⟨"name", .create, none, some "login"⟩] },
      { operation := .update, collection := "users", conditions := [⟨"age", .exists, none⟩],
        attributes := some [⟨"age", .update, some (.array [.null]), none⟩] }] }

theorem records_settle_on_looseScript :
    ScriptFile.decode looseScript = .ok strictScript ∧
    ScriptFile.decode strictScript.encode = .ok strictScript := by
  have loose : ScriptFile.decode looseScript = .ok strictScript := rfl
  obtain ⟨-, -, -, -, -, -, -, -, -, file, -⟩ := records_settle
  exact ⟨loose, file looseScript strictScript loose⟩

end Sample

end DocumentMigration
