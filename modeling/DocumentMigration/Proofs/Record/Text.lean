import DocumentMigration.Proofs.Change.Canonical
import DocumentMigration.Proofs.Json.Pretty
import DocumentMigration.Proofs.Json.Reordered
import DocumentMigration.Proofs.Record.RoundTrip

/-!
Change records written as text. A text is read with the members of every object in the order of
their keys, which changes nothing in a record whose documents and values have theirs in order. The
floats in them are read as the reader takes their texts.
-/
namespace DocumentMigration

open Json Record

attribute [local simp] bind Except.bind pure Except.pure Except.map

/-- The two texts that are written for a value: on one line, and over several. -/
inductive Json.Value.IsText (v : Value) : String → Prop where
  | compact : IsText v v.compact
  | pretty : IsText v v.pretty

theorem Json.Value.IsText.parse? [FloatReader] {v : Value} {text : String}
    (written : v.IsText text) :
    Value.parse? text = if v.depth ≤ nestingLimit then v.reread.map sorted else none := by
  cases written with
  | compact => exact Value.ofText?_of_tokens nestingLimit v.tokens_compact
  | pretty => exact Value.ofText?_of_tokens nestingLimit v.tokens_pretty

/-- Of a text that is not nested too deeply, the record is read whose values are read. -/
theorem Json.Value.IsText.map_parse? [FloatReader] {α : Type} {decode : Value → Decoded α}
    {encode : α → Value} {strip : α → α} {reread : Option α} {v : Value} {text : String}
    (written : v.IsText text) (same : v.reread = reread.map encode)
    (reads : ∀ a ∈ reread, decode (encode a).sorted = .ok (strip a)) :
    (Value.parse? text).map decode =
      if v.depth ≤ nestingLimit then (reread.map strip).map .ok else none := by
  rw [written.parse?]
  split
  · rw [same]
    cases reread with
    | none => rfl
    | some a => exact congrArg some (reads a rfl)
  · rfl

section Reread

variable [FloatReader]

def Record.rereadField (m : String × Option Value) : Option (String × Option Value) :=
  (m.2.mapM Value.reread).map (m.1, ·)

/-- Fields are read one by one. -/
theorem Record.reread_fields (members : List (String × Option Value)) :
    (Record.fields members).reread = (members.mapM Record.rereadField).map Record.fields := by
  have each : Value.rereadMembers (members.filterMap fun m => m.2.map (m.1, ·)) =
      (members.mapM Record.rereadField).map (List.filterMap fun m => m.2.map (m.1, ·)) := by
    induction members with
    | nil => rfl
    | cons m members ih =>
      obtain ⟨k, _ | v⟩ := m
      · rw [List.mapM_cons, List.filterMap_cons_none rfl, ih]
        cases members.mapM Record.rereadField <;> rfl
      · show Value.rereadMembers ((k, v) :: members.filterMap fun m => m.2.map (m.1, ·)) = _
        rw [List.mapM_cons, Value.rereadMembers, ih]
        cases read : v.reread <;> cases members.mapM Record.rereadField <;>
          simp [Record.rereadField, read]
  show (Value.rereadMembers (members.filterMap fun m => m.2.map (m.1, ·))).map Value.object = _
  rw [each]
  cases members.mapM Record.rereadField <;> rfl

/-- A document that may be absent is a field that is an object. -/
theorem reread_document (k : String) (document : Option Object) :
    Record.rereadField (k, document.map .object) =
      (document.mapM Value.rereadMembers).map fun read => (k, read.map .object) := by
  cases document with
  | none => rfl
  | some ms =>
    cases read : Value.rereadMembers ms <;> simp [Record.rereadField, Value.reread, read]

theorem reread_kept (k : String) {v : Value} (steady : v.Steady) :
    Record.rereadField (k, some v) = some (k, some v) := by
  simp [Record.rereadField, show v.reread = some v from steady]

omit [FloatReader] in
/-- What holds of a value, and is kept when it is read, holds of what is read. -/
theorem forall_of_mapM {α : Type} {f : α → Option α} {holds : α → Prop} {o read : Option α}
    (kept : ∀ a b, holds a → f a = some b → holds b) (before : ∀ a ∈ o, holds a)
    (done : o.mapM f = some read) : ∀ b ∈ read, holds b := by
  cases o with
  | none =>
    cases done
    exact nofun
  | some a =>
    obtain ⟨b, here, rfl⟩ := Option.map_eq_some_iff.mp done
    rintro _ ⟨⟩
    exact kept a b (before a rfl) here

omit [FloatReader] in
theorem Option.exists_of_mem_mapM {α β : Type} {f : α → Option β} {xs : List α} {ys : List β}
    {y : β} (done : xs.mapM f = some ys) (member : y ∈ ys) : ∃ x ∈ xs, f x = some y := by
  induction xs generalizing ys with
  | nil =>
    cases done
    cases member
  | cons x xs ih =>
    obtain ⟨first, here, rest, later, rfl⟩ : ∃ first, f x = some first ∧
        ∃ rest, xs.mapM f = some rest ∧ first :: rest = ys := by
      simpa [List.mapM_cons, Option.bind_eq_some_iff] using done
    rcases List.mem_cons.mp member with rfl | member
    · exact ⟨x, List.mem_cons_self, here⟩
    · obtain ⟨known, inRest, made⟩ := ih later member
      exact ⟨known, List.mem_cons_of_mem _ inRest, made⟩

def AttributeChange.reread (c : AttributeChange) : Option AttributeChange := do
  let oldValue ← c.oldValue.mapM Value.reread
  let newValue ← c.newValue.mapM Value.reread
  return { c with oldValue, newValue }

theorem AttributeChange.reread_encode (c : AttributeChange) :
    c.encode.reread = c.reread.map encode := by
  obtain ⟨path, kind, old, new⟩ := c
  rw [encode, Record.reread_fields, reread]
  simp only [List.mapM_cons, List.mapM_nil, Record.rereadField]
  cases old.mapM Value.reread <;> cases new.mapM Value.reread <;> rfl

theorem reread_encodeChanges (changes : List AttributeChange) :
    (encodeChanges changes).reread = (changes.mapM AttributeChange.reread).map encodeChanges := by
  rw [encodeChanges, Value.reread]
  have each : Value.rereadItems (changes.map AttributeChange.encode) =
      (changes.mapM AttributeChange.reread).map (List.map AttributeChange.encode) := by
    induction changes with
    | nil => rfl
    | cons c changes ih =>
      rw [List.map_cons, Value.rereadItems, c.reread_encode, ih, List.mapM_cons]
      cases c.reread <;> cases changes.mapM AttributeChange.reread <;> rfl
  rw [each]
  cases changes.mapM AttributeChange.reread <;> rfl

theorem reread_changes (k : String) (changes : List AttributeChange) :
    Record.rereadField (k, some (encodeChanges changes)) =
      (changes.mapM AttributeChange.reread).map fun read => (k, some (encodeChanges read)) := by
  have read := reread_encodeChanges changes
  cases all : changes.mapM AttributeChange.reread <;> rw [all] at read <;>
    simp [Record.rereadField, read]

def ChangeShape.reread (s : ChangeShape) : Option ChangeShape := do
  let before ← s.before.mapM Value.rereadMembers
  let after ← s.after.mapM Value.rereadMembers
  let changes ← s.changes.mapM AttributeChange.reread
  return { s with before, after, changes }

theorem ChangeShape.reread_encode (s : ChangeShape) : s.encode.reread = s.reread.map encode := by
  obtain ⟨operation, collection, before, after, changes⟩ := s
  rw [encode, Record.reread_fields, reread]
  simp only [List.mapM_cons, List.mapM_nil, reread_kept _ (Value.steady_string _),
    reread_kept "operation" (show operation.encode.Steady from rfl), reread_document,
    reread_changes]
  cases before.mapM Value.rereadMembers <;> cases after.mapM Value.rereadMembers <;>
    cases changes.mapM AttributeChange.reread <;> rfl

/-- A row as its texts are read: the values in it, if the reader takes them all. -/
def DocumentChange.reread (c : DocumentChange) : Option DocumentChange := do
  let shape ← c.shape.reread
  return { c with before := shape.before, after := shape.after, changes := shape.changes }

theorem DocumentChange.reread_encode (c : DocumentChange) :
    c.encode.reread = c.reread.map encode := by
  obtain ⟨operation, documentId, collection, before, after, changes⟩ := c
  rw [encode, Record.reread_fields, reread, shape, ChangeShape.reread]
  simp only [List.mapM_cons, List.mapM_nil, reread_kept _ (Value.steady_string _),
    reread_kept "operation" (show operation.encode.Steady from rfl), reread_document,
    reread_changes]
  cases before.mapM Value.rereadMembers <;> cases after.mapM Value.rereadMembers <;>
    cases changes.mapM AttributeChange.reread <;> rfl

def ChangeGroup.reread (g : ChangeGroup) : Option ChangeGroup :=
  g.change.reread.map fun change => { g with change }

theorem ChangeGroup.reread_encode (g : ChangeGroup) : g.encode.reread = g.reread.map encode := by
  have ids : (Value.ofStrings g.documentIds).reread = some _ := Value.steady_ofStrings g.documentIds
  rw [encode, reread, Value.reread]
  simp only [Value.rereadMembers, ids, g.change.reread_encode, Value.reread]
  cases g.change.reread <;> rfl

end Reread

@[simp] theorem Operation.sorted_encode (o : Operation) : o.encode.sorted = o.encode := rfl

namespace AttributeChange

/-- The values that are there have their members in order. -/
structure Canonical (c : AttributeChange) : Prop where
  oldValue : ∀ v ∈ c.oldValue, v.Canonical
  newValue : ∀ v ∈ c.newValue, v.Canonical

theorem canonical_of_reread [FloatReader] {c c' : AttributeChange} (canonical : c.Canonical)
    (read : c.reread = some c') : c'.Canonical := by
  obtain ⟨old, readOld, new, readNew, same⟩ : ∃ old, c.oldValue.mapM Value.reread = some old ∧
      ∃ new, c.newValue.mapM Value.reread = some new ∧
        some { c with oldValue := old, newValue := new } = some c' := by
    simpa [reread, Option.bind_eq_some_iff] using read
  cases same
  exact ⟨forall_of_mapM (fun v _ ordered => v.canonical_of_reread ordered) canonical.oldValue
      readOld,
    forall_of_mapM (fun v _ ordered => v.canonical_of_reread ordered) canonical.newValue readNew⟩

theorem decode_sorted {c : AttributeChange} (canonical : c.Canonical) :
    decode c.encode.sorted = .ok c.withoutNulls := by
  obtain ⟨path, kind, old, new⟩ := c
  obtain ⟨olds, news⟩ := canonical
  have oldSorted (v : Value) (found : v ∈ old) : v.sorted = v := v.sorted_eq_self (olds v found)
  have newSorted (v : Value) (found : v ∈ new) : v.sorted = v := v.sorted_eq_self (news v found)
  cases old <;> cases new <;>
    simp_all [decode, encode, Record.fields, record, member, required, Value.sorted,
      Value.sortedMembers, Object.get?_ofList, Object.get?, withoutNulls]

theorem each_decode_sorted {changes : List AttributeChange}
    (canonical : ∀ c ∈ changes, c.Canonical) :
    each decode (encodeChanges changes).sorted = .ok (changes.map withoutNulls) := by
  rw [encodeChanges, Value.sorted, Value.sortedItems_eq_map, List.map_map]
  exact each_map changes fun c member => decode_sorted (canonical c member)

end AttributeChange

namespace ChangeShape

/-- The documents and the values that are there have their members in order. -/
structure Canonical (s : ChangeShape) : Prop where
  before : ∀ ms ∈ s.before, (Value.object ms).Canonical
  after : ∀ ms ∈ s.after, (Value.object ms).Canonical
  changes : ∀ c ∈ s.changes, c.Canonical

theorem canonical_of_reread [FloatReader] {s s' : ChangeShape} (canonical : s.Canonical)
    (read : s.reread = some s') : s'.Canonical := by
  obtain ⟨before, readBefore, after, readAfter, changes, readChanges, same⟩ :
      ∃ before, s.before.mapM Value.rereadMembers = some before ∧
        ∃ after, s.after.mapM Value.rereadMembers = some after ∧
          ∃ changes, s.changes.mapM AttributeChange.reread = some changes ∧
            some { s with before, after, changes } = some s' := by
    simpa [reread, Option.bind_eq_some_iff] using read
  cases same
  have document (ms ns : Object) (ordered : (Value.object ms).Canonical)
      (members : Value.rereadMembers ms = some ns) : (Value.object ns).Canonical :=
    Value.canonical_of_reread _ ordered (Option.map_eq_some_iff.mpr ⟨ns, members, rfl⟩)
  refine ⟨forall_of_mapM document canonical.before readBefore,
    forall_of_mapM document canonical.after readAfter, fun c member => ?_⟩
  obtain ⟨e, known, made⟩ := Option.exists_of_mem_mapM readChanges member
  exact AttributeChange.canonical_of_reread (canonical.changes e known) made

theorem decode_sorted {s : ChangeShape} (canonical : s.Canonical) :
    decode s.encode.sorted = .ok s.withoutNulls := by
  obtain ⟨operation, collection, before, after, changes⟩ := s
  obtain ⟨befores, afters, all⟩ := canonical
  have changed := AttributeChange.each_decode_sorted all
  have beforeSorted (ms : Object) (found : ms ∈ before) : (Value.object ms).sorted = .object ms :=
    Value.sorted_eq_self _ (befores ms found)
  have afterSorted (ms : Object) (found : ms ∈ after) : (Value.object ms).sorted = .object ms :=
    Value.sorted_eq_self _ (afters ms found)
  cases before <;> cases after <;>
    simp_all [decode, encode, Record.fields, record, member, required, Value.sorted,
      Value.sortedMembers, Object.get?_ofList, Object.get?, withoutNulls]

end ChangeShape

namespace DocumentChange

def Canonical (c : DocumentChange) : Prop := c.shape.Canonical

theorem canonical_of_reread [FloatReader] {c c' : DocumentChange} (canonical : c.Canonical)
    (read : c.reread = some c') : c'.Canonical := by
  obtain ⟨s, readShape, same⟩ := Option.bind_eq_some_iff.mp read
  cases same
  have ordered : s.Canonical := ChangeShape.canonical_of_reread canonical readShape
  exact ⟨ordered.before, ordered.after, ordered.changes⟩

theorem decode_sorted {c : DocumentChange} (canonical : c.Canonical) :
    decode c.encode.sorted = .ok c.withoutNulls := by
  obtain ⟨operation, documentId, collection, before, after, changes⟩ := c
  obtain ⟨befores, afters, all⟩ := canonical
  have changed := AttributeChange.each_decode_sorted all
  have beforeSorted (ms : Object) (found : ms ∈ before) : (Value.object ms).sorted = .object ms :=
    Value.sorted_eq_self _ (befores ms found)
  have afterSorted (ms : Object) (found : ms ∈ after) : (Value.object ms).sorted = .object ms :=
    Value.sorted_eq_self _ (afters ms found)
  cases before <;> cases after <;>
    simp_all [decode, encode, Record.fields, record, member, required, Value.sorted,
      Value.sortedMembers, Object.get?_ofList, Object.get?, withoutNulls, shape]

end DocumentChange

namespace ChangeGroup

def Canonical (g : ChangeGroup) : Prop := g.change.Canonical

theorem canonical_of_reread [FloatReader] {g g' : ChangeGroup} (canonical : g.Canonical)
    (read : g.reread = some g') : g'.Canonical := by
  obtain ⟨s, readShape, rfl⟩ := Option.map_eq_some_iff.mp read
  exact ChangeShape.canonical_of_reread canonical readShape

theorem decode_sorted {g : ChangeGroup} (canonical : g.Canonical) :
    decode g.encode.sorted = .ok g.withoutNulls := by
  have ids : (Value.ofStrings g.documentIds).sorted = .ofStrings g.documentIds := by
    simp [Value.ofStrings, Value.sorted, Value.sortedItems_eq_map]
  have change := ChangeShape.decode_sorted canonical
  simp [decode, encode, record, member, required, Value.sorted, Value.sortedMembers,
    Object.get?_ofList, Object.get?, withoutNulls, ids, change]

end ChangeGroup

end DocumentMigration
