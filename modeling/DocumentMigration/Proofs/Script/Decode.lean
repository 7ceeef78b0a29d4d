import DocumentMigration.Proofs.Script.Shape
import DocumentMigration.Proofs.Store.Action

/-!
Decoding a script of the shape that the schema asks for. The decoder takes every such value and
keeps what is given in it: the members that are there and not null.
-/
namespace DocumentMigration

open Json Record

/-- The value of a member, unless it is left out or null. -/
def given? (key : String) (ms : Object) : Option Value :=
  match Object.get? key ms with
  | some .null => none
  | found => found

/-- The objects in the array of a member. -/
def objectsAt (key : String) (ms : Object) : List Object :=
  match Object.get? key ms with
  | some (.array xs) => xs.filterMap fun
    | .object ms => some ms
    | _ => none
  | _ => []

section Values

variable {ms : Object} {key : String} {v : Value} {α : Type} {item : Value → Decoded α}
  {shape : Object → Prop} {of : Object → α → Prop}

theorem filterMap_map_object (oss : List Object) : ((oss.map Value.object).filterMap fun
    | .object ms => some ms
    | _ => none) = oss := by
  induction oss with
  | nil => rfl
  | cons ms oss ih => simp [ih]

theorem objectsAt_of_array {oss : List Object}
    (found : Object.get? key ms = some (.array (oss.map .object))) : objectsAt key ms = oss := by
  rw [objectsAt, found]
  exact filterMap_map_object oss

/-- A list of records as the objects that they are. -/
theorem isListOf_isRecord_iff :
    IsListOf (IsRecord shape) v ↔
      ∃ oss : List Object, v = .array (oss.map .object) ∧ ∀ ms ∈ oss, shape ms := by
  constructor
  · rintro ⟨xs, rfl, each⟩
    induction xs with
    | nil => exact ⟨[], rfl, nofun⟩
    | cons x xs ih =>
      obtain ⟨⟨ms, rfl, first⟩, rest⟩ := List.forall_mem_cons.mp each
      obtain ⟨oss, same, shapes⟩ := ih rest
      cases same
      exact ⟨ms :: oss, rfl, List.forall_mem_cons.mpr ⟨first, shapes⟩⟩
  · rintro ⟨oss, rfl, shapes⟩
    refine ⟨_, rfl, ?_⟩
    rintro _ member
    obtain ⟨ms, known, rfl⟩ := List.mem_map.mp member
    exact ⟨ms, rfl, shapes ms known⟩

theorem member_of_get? {a : α} (found : Object.get? key ms = some v) (decoded : item v = .ok a) :
    member ms key item = .ok (some a) := by
  simp [member, found, decoded, Except.map]

theorem member_of_absent (absent : Object.get? key ms = none) : member ms key item = .ok none := by
  simp [member, absent]

theorem member_text (has : Has ms key IsText) :
    ∃ s, member ms key text = .ok (some s) ∧ Object.get? key ms = some (.string s) := by
  obtain ⟨_, found, s, rfl⟩ := has
  exact ⟨s, member_of_get? found rfl, found⟩

/-- A member that may be anything is decoded to what is given. -/
theorem member_any (ms : Object) (key : String) :
    ∃ o, member ms key (nullable any) = .ok o ∧ o.join = given? key ms := by
  unfold given?
  rcases found : Object.get? key ms with _ | v
  · exact ⟨none, member_of_absent found, rfl⟩
  · cases v with
    | null => exact ⟨some none, member_of_get? found rfl, rfl⟩
    | _ => exact ⟨some (some _), member_of_get? found rfl, rfl⟩

theorem member_nullableText (may : MayHave ms key (OrNull IsText)) :
    ∃ o, member ms key (nullable text) = .ok o ∧ o.join.map .string = given? key ms := by
  unfold given?
  rcases found : Object.get? key ms with _ | v
  · exact ⟨none, member_of_absent found, rfl⟩
  · rcases may v found with rfl | ⟨s, rfl⟩
    · exact ⟨some none, member_of_get? found rfl, rfl⟩
    · exact ⟨some (some s), member_of_get? found rfl, rfl⟩

/-- Records that can be decoded one by one can be decoded as a list. -/
theorem each_of_forall (decodes : ∀ ms, shape ms → ∃ a, item (.object ms) = .ok a ∧ of ms a)
    {oss : List Object} (shapes : ∀ ms ∈ oss, shape ms) :
    ∃ as, each item (.array (oss.map .object)) = .ok as ∧ List.Forall₂ of oss as := by
  unfold each
  induction oss with
  | nil => exact ⟨[], rfl, .nil⟩
  | cons ms oss ih =>
    obtain ⟨first, rest⟩ := List.forall_mem_cons.mp shapes
    obtain ⟨a, decoded, here⟩ := decodes ms first
    obtain ⟨as, decodedRest, there⟩ := ih rest
    exact ⟨a :: as, Except.mapM_cons_eq_ok_iff.mpr ⟨a, as, rfl, decoded, decodedRest⟩,
      .cons here there⟩

/-- A list that may be left out is decoded to its records, to none where it is not there. -/
theorem member_list (decodes : ∀ ms, shape ms → ∃ a, item (.object ms) = .ok a ∧ of ms a)
    (may : MayHave ms key (IsListOf (IsRecord shape))) :
    ∃ o, member ms key (each item) = .ok o ∧ List.Forall₂ of (objectsAt key ms) (o.getD []) := by
  rcases found : Object.get? key ms with _ | v
  · refine ⟨none, member_of_absent found, ?_⟩
    simp [objectsAt, found]
  · obtain ⟨oss, rfl, shapes⟩ := isListOf_isRecord_iff.mp (may v found)
    obtain ⟨as, decoded, related⟩ := each_of_forall decodes shapes
    refine ⟨some as, member_of_get? found decoded, ?_⟩
    rwa [objectsAt_of_array found]

/-- A list that may also be null is decoded to none just where it is not given. -/
theorem member_nullableList (decodes : ∀ ms, shape ms → ∃ a, item (.object ms) = .ok a ∧ of ms a)
    (may : MayHave ms key (OrNull (IsListOf (IsRecord shape)))) :
    ∃ o, member ms key (nullable (each item)) = .ok o ∧
      o.join.isSome = (given? key ms).isSome ∧
      List.Forall₂ of (objectsAt key ms) (o.join.getD []) := by
  unfold given?
  rcases found : Object.get? key ms with _ | v
  · refine ⟨none, member_of_absent found, rfl, ?_⟩
    simp [objectsAt, found]
  · rcases may v found with rfl | list
    · refine ⟨some none, member_of_get? found rfl, rfl, ?_⟩
      simp [objectsAt, found]
    · obtain ⟨oss, rfl, shapes⟩ := isListOf_isRecord_iff.mp list
      obtain ⟨as, decoded, related⟩ := each_of_forall decodes shapes
      refine ⟨some (some as), member_of_get? found ?_, rfl, ?_⟩
      · simp [nullable, decoded, Except.map]
      · rwa [objectsAt_of_array found]

end Values

/-- A member with one of some names is decoded to what has that name. -/
theorem member_named {ms : Object} {key : String} {α : Type} {item : Value → Decoded α}
    {name : α → String} {all : List α} (decodes : ∀ a, item (.string (name a)) = .ok a)
    (has : Has ms key (IsOneOf (all.map name))) :
    ∃ a, member ms key item = .ok (some a) ∧ Object.get? key ms = some (.string (name a)) := by
  obtain ⟨_, found, _, listed, rfl⟩ := has
  obtain ⟨a, -, rfl⟩ := List.mem_map.mp listed
  exact ⟨a, member_of_get? found (decodes a), found⟩

theorem Operation.decode_name (o : Operation) : Operation.decode (.string o.name) = .ok o := by
  cases o <;> rfl

theorem Comparison.decode_name (c : Comparison) : Comparison.decode (.string c.name) = .ok c := by
  cases c <;> rfl

section Records

variable {ms : Object}

/-- A condition that says what is given in an object. -/
structure Condition.Of (ms : Object) (c : Condition) : Prop where
  path : Object.get? "path" ms = some (.string c.path)
  comparison : Object.get? "op" ms = some (.string c.comparison.name)
  value : c.value = given? "value" ms

theorem Condition.decode_of_shape (shape : ConditionShape ms) :
    ∃ c, Condition.decode (.object ms) = .ok c ∧ Condition.Of ms c := by
  obtain ⟨comparison, readComparison, hasComparison⟩ :=
    member_named Comparison.decode_name shape.comparison
  obtain ⟨path, readPath, hasPath⟩ := member_text shape.path
  obtain ⟨value, readValue, gives⟩ := member_any ms "value"
  refine ⟨⟨path, comparison, value.join⟩, ?_, ⟨hasPath, hasComparison, gives⟩⟩
  simp [decode, record, readComparison, readPath, readValue, required, bind, Except.bind, pure,
    Except.pure]

structure ScriptAttribute.Of (ms : Object) (a : ScriptAttribute) : Prop where
  path : Object.get? "path" ms = some (.string a.path)
  operation : Object.get? "operation" ms = some (.string a.operation.name)
  value : a.value = given? "value" ms
  copyFrom : a.copyFrom.map .string = given? "copy_from" ms

theorem ScriptAttribute.decode_of_shape (shape : AttributeShape ms) :
    ∃ a, ScriptAttribute.decode (.object ms) = .ok a ∧ ScriptAttribute.Of ms a := by
  obtain ⟨copyFrom, readCopyFrom, givesCopyFrom⟩ := member_nullableText shape.copyFrom
  obtain ⟨operation, readOperation, hasOperation⟩ :=
    member_named Operation.decode_name shape.operation
  obtain ⟨path, readPath, hasPath⟩ := member_text shape.path
  obtain ⟨value, readValue, gives⟩ := member_any ms "value"
  refine ⟨⟨path, operation, value.join, copyFrom.join⟩, ?_,
    ⟨hasPath, hasOperation, gives, givesCopyFrom⟩⟩
  simp [decode, record, readCopyFrom, readOperation, readPath, readValue, required, bind,
    Except.bind, pure, Except.pure]

structure ScriptTemplate.Of (ms : Object) (t : ScriptTemplate) : Prop where
  operation : Object.get? "operation" ms = some (.string t.operation.name)
  collection : Object.get? "collection" ms = some (.string t.collection)
  conditions : List.Forall₂ Condition.Of (objectsAt "where" ms) t.conditions
  given : t.attributes.isSome = (given? "attributes" ms).isSome
  attributes : List.Forall₂ ScriptAttribute.Of (objectsAt "attributes" ms) (t.attributes.getD [])

/-- Attributes under their second name are what the schema does not look at. -/
theorem ScriptTemplate.decode_of_shape (shape : TemplateShape ms)
    (plain : Object.get? "changes" ms = none) :
    ∃ t, ScriptTemplate.decode (.object ms) = .ok t ∧ ScriptTemplate.Of ms t := by
  obtain ⟨attributes, readAttributes, given, hasAttributes⟩ := member_nullableList
    (fun _ => ScriptAttribute.decode_of_shape) shape.attributes
  obtain ⟨collection, readCollection, hasCollection⟩ := member_text shape.collection
  obtain ⟨operation, readOperation, hasOperation⟩ :=
    member_named Operation.decode_name shape.operation
  obtain ⟨conditions, readConditions, hasConditions⟩ := member_list
    (fun _ => Condition.decode_of_shape) shape.conditions
  have absent : Object.contains "changes" ms = false := by simp [Object.contains, plain]
  have other : member ms "changes" (nullable (each ScriptAttribute.decode)) = .ok none :=
    member_of_absent plain
  refine ⟨⟨operation, collection, conditions.getD [], attributes.join⟩, ?_,
    ⟨hasOperation, hasCollection, hasConditions, given, hasAttributes⟩⟩
  simp [decode, record, readAttributes, readCollection, readOperation, readConditions, absent,
    other, required, bind, Except.bind, pure, Except.pure]

structure ScriptFile.Of (ms : Object) (f : ScriptFile) : Prop where
  description : f.description.map .string = given? "description" ms
  given : f.changes.isSome = (given? "changes" ms).isSome
  changes : List.Forall₂ ScriptTemplate.Of (objectsAt "changes" ms) (f.changes.getD [])

/-- No template of a script has a member called `changes`. -/
def PlainTemplates (ms : Object) : Prop :=
  ∀ t ∈ objectsAt "changes" ms, Object.get? "changes" t = none

theorem PlainTemplates.shapes (plain : PlainTemplates ms) (shape : FileShape ms) :
    MayHave ms "changes" (OrNull (IsListOf (IsRecord fun t =>
      TemplateShape t ∧ Object.get? "changes" t = none))) := by
  intro v found
  rcases shape.changes v found with null | list
  · exact .inl null
  · obtain ⟨oss, rfl, shapes⟩ := isListOf_isRecord_iff.mp list
    rw [PlainTemplates, objectsAt_of_array found] at plain
    exact .inr (isListOf_isRecord_iff.mpr ⟨oss, rfl, fun t member =>
      ⟨shapes t member, plain t member⟩⟩)

theorem ScriptFile.decode_of_shape (shape : FileShape ms) (plain : PlainTemplates ms) :
    ∃ f, ScriptFile.decode (.object ms) = .ok f ∧ ScriptFile.Of ms f := by
  obtain ⟨changes, readChanges, given, hasChanges⟩ := member_nullableList
    (fun _ both => ScriptTemplate.decode_of_shape both.1 both.2) (plain.shapes shape)
  obtain ⟨description, readDescription, gives⟩ := member_nullableText shape.description
  refine ⟨⟨description.join, changes.join⟩, ?_, ⟨gives, given, hasChanges⟩⟩
  simp [decode, record, readChanges, readDescription, bind, Except.bind, pure, Except.pure]

end Records

end DocumentMigration
