import DocumentMigration.Proofs.Schema.Definitions
import DocumentMigration.Record.Script
import DocumentMigration.Schema.Registry

/-!
What the schema of script files asks of a value, read off member by member: which members are there,
of which types, and which names they hold. Other members may stand beside them.
-/
namespace DocumentMigration

open Json

/-- An object with members of some shape. -/
def IsRecord (shape : Object → Prop) (v : Value) : Prop := ∃ ms, v = .object ms ∧ shape ms

/-- A list of values that are all of one shape. -/
def IsListOf (good : Value → Prop) (v : Value) : Prop := ∃ xs, v = .array xs ∧ ∀ x ∈ xs, good x

/-- Null, or a value of some form. -/
def OrNull (good : Value → Prop) (v : Value) : Prop := v = .null ∨ good v

def IsText (v : Value) : Prop := ∃ s, v = .string s

/-- A text that is one of some names. -/
def IsOneOf (names : List String) (v : Value) : Prop := ∃ name ∈ names, v = .string name

abbrev IsOperation : Value → Prop := IsOneOf (Operation.all.map (·.name))

abbrev IsComparison : Value → Prop := IsOneOf (Comparison.all.map (·.name))

section Shapes

variable (ms : Object)

/-- A member that is there. -/
def Has (key : String) (good : Value → Prop) : Prop := ∃ v, Object.get? key ms = some v ∧ good v

/-- A member that may be left out. -/
def MayHave (key : String) (good : Value → Prop) : Prop := ∀ v, Object.get? key ms = some v → good v

@[mk_iff]
structure ConditionShape : Prop where
  path : Has ms "path" IsText
  comparison : Has ms "op" IsComparison

@[mk_iff]
structure AttributeShape : Prop where
  path : Has ms "path" IsText
  operation : Has ms "operation" IsOperation
  copyFrom : MayHave ms "copy_from" (OrNull IsText)

@[mk_iff]
structure TemplateShape : Prop where
  operation : Has ms "operation" IsOperation
  collection : Has ms "collection" IsText
  conditions : MayHave ms "where" (IsListOf (IsRecord ConditionShape))
  attributes : MayHave ms "attributes" (OrNull (IsListOf (IsRecord AttributeShape)))

@[mk_iff]
structure FileShape : Prop where
  description : MayHave ms "description" (OrNull IsText)
  changes : MayHave ms "changes" (OrNull (IsListOf (IsRecord TemplateShape)))

end Shapes

theorem has_iff {ms : Object} {key : String} {good : Value → Prop} :
    Has ms key good ↔ MayHave ms key good ∧ (Object.get? key ms).isSome := by
  unfold Has MayHave
  cases Object.get? key ms <;> simp

theorem mayHave_of_get? {ms : Object} {key : String} {good : Value → Prop} {v : Value}
    (found : Object.get? key ms = some v) (h : good v) : MayHave ms key good := by
  intro w other
  cases found.symm.trans other
  exact h

theorem mayHave_of_absent {ms : Object} {key : String} {good : Value → Prop}
    (absent : Object.get? key ms = none) : MayHave ms key good := by
  intro v found
  cases absent.symm.trans found

theorem mayHave_true (ms : Object) (key : String) : MayHave ms key (fun _ => True) :=
  fun _ _ => trivial

theorem isRecord_congr {shape shape' : Object → Prop} (same : ∀ ms, shape ms ↔ shape' ms) :
    IsRecord shape = IsRecord shape' :=
  congrArg IsRecord (funext fun ms => propext (same ms))

namespace Schema

variable {asks : Asks} {v : Value}

/-! The forms that the keywords of a schema have here, and what these admit. -/

def types (names : List TypeName) : List (String × Keyword) := [("type", .assertion (.type names))]

def reference (text : String) : List (String × Keyword) := [("$ref", .reference text)]

/-- A text that is one of some names. -/
def names (texts : List String) : List (String × Keyword) :=
  [("enum", .assertion (.enum (texts.map .string))), ("type", .assertion (.type [.string]))]

/-- Items under a reference, in an array or beside values of other types. -/
def list (text : String) (names : List TypeName) : List (String × Keyword) :=
  [("items", .one (.object [("$ref", .string text)]) (.object (reference text))),
    ("type", .assertion (.type names))]

/-- Members by their names, and which of them have to be there. -/
def record (named : List (String × Schema)) (required : List String) : List (String × Keyword) :=
  [("properties", .many named), ("required", .assertion (.required required)),
    ("type", .assertion (.type [.object]))]

theorem admits_object (keywords : List (String × Keyword)) :
    (object keywords).Admits asks = KeywordsAdmit asks keywords := by
  funext v
  rw [Admits]

theorem admits_always : always.Admits asks = fun _ => True := by
  funext v
  rw [Admits]

theorem admit_described (name text : String) (keywords : List (String × Keyword)) :
    KeywordsAdmit asks ((name, .text text) :: keywords) = KeywordsAdmit asks keywords := by
  funext v
  simp [KeywordsAdmit, ContentAdmits]

theorem admit_reference (text : String) : KeywordsAdmit asks (reference text) = asks text := by
  funext v
  simp [reference, KeywordsAdmit, ContentAdmits, Draft.isAside]

theorem admit_text : KeywordsAdmit asks (types [.string]) = IsText := by
  funext v
  cases v <;> simp [types, KeywordsAdmit, ContentAdmits, Draft.isAside, Assertion.holds,
    TypeName.admits, IsText]

theorem admit_nullableText : KeywordsAdmit asks (types [.string, .null]) = OrNull IsText := by
  funext v
  cases v <;> simp [types, KeywordsAdmit, ContentAdmits, Draft.isAside, Assertion.holds,
    TypeName.admits, OrNull, IsText]

theorem admit_names (texts : List String) :
    KeywordsAdmit asks (names texts) = IsOneOf texts := by
  funext v
  cases v <;> simp [names, KeywordsAdmit, ContentAdmits, Draft.isAside, Assertion.holds,
    TypeName.admits, Value.sameValue, Value.equalBy, IsOneOf]

theorem admit_list (text : String) :
    KeywordsAdmit asks (list text [.array]) = IsListOf (asks text) := by
  funext v
  cases v <;> simp [list, KeywordsAdmit, ContentAdmits, Draft.isAside, Assertion.holds,
    TypeName.admits, IsListOf, admits_object, admit_reference]

theorem admit_nullableList (text : String) :
    KeywordsAdmit asks (list text [.array, .null]) = OrNull (IsListOf (asks text)) := by
  funext v
  cases v <;> simp [list, KeywordsAdmit, ContentAdmits, Draft.isAside, Assertion.holds,
    TypeName.admits, OrNull, IsListOf, admits_object, admit_reference]

theorem admit_record (named : List (String × Schema)) (required : List String) :
    KeywordsAdmit asks (record named required) = IsRecord fun ms =>
      MembersAdmit asks named ms ∧ ∀ key ∈ required, (Object.get? key ms).isSome := by
  funext v
  cases v <;> simp [record, KeywordsAdmit, ContentAdmits, Draft.isAside, Assertion.holds,
    Assertion.lacking, Assertion.missing, Object.contains, TypeName.admits, IsRecord,
    Option.isSome_iff_ne_none]

theorem membersAdmit_cons (name : String) (schema : Schema) (rest : List (String × Schema))
    (ms : Object) : MembersAdmit asks ((name, schema) :: rest) ms ↔
      MayHave ms name (schema.Admits asks) ∧ MembersAdmit asks rest ms := by
  rw [MembersAdmit]
  rfl

theorem membersAdmit_nil (ms : Object) : MembersAdmit asks [] ms := by
  rw [MembersAdmit]
  trivial

/-- A described record is read for what it asks of members. -/
theorem reads_record {contents : Value} {needs : Definitions} {text : String}
    {named : List (String × Schema)} {required : List String} {shape : Object → Prop}
    (read : ofValue? contents = some (.object (("description", .text text) ::
      record named required)))
    (plain : isPlainSchema (.object (("description", .text text) :: record named required)))
    (asked : (Schema.object (("description", .text text) :: record named required)).askedTexts ⊆
      needs.map (·.1))
    (same : ∀ ms, (MembersAdmit (asksOf needs) named ms ∧
      ∀ key ∈ required, (Object.get? key ms).isSome) ↔ shape ms) :
    Reads contents needs (IsRecord shape) := by
  refine ⟨_, read, plain, asked, ?_⟩
  rw [admits_object, admit_described, admit_record]
  exact isRecord_congr same

end Schema

namespace ScriptFile

open Registry (operation condition conditionOp scriptAttribute scriptTemplate scriptFile)
open Schema (types reference names list record)

/-- What the definitions of the schema ask of a value. -/
def definitions : Schema.Definitions :=
  [("#/$defs/ScriptTemplate", IsRecord TemplateShape),
    ("#/$defs/ScriptAttribute", IsRecord AttributeShape),
    ("#/$defs/Condition", IsRecord ConditionShape),
    ("#/$defs/ConditionOp", IsComparison), ("#/$defs/ChangeOperation", IsOperation)]

/-! The definitions as they are read, and what each of them asks. -/

theorem reads_operation : Schema.Reads operation.2 [] IsOperation := by
  obtain ⟨d, read⟩ : ∃ d, Schema.ofValue? operation.2 = some (.object
    (("description", .text d) :: names ["create", "update", "delete"])) := ⟨_, rfl⟩
  refine ⟨_, read, rfl, List.nil_subset _, ?_⟩
  rw [Schema.admits_object, Schema.admit_described, Schema.admit_names]
  rfl

theorem reads_comparison : Schema.Reads conditionOp.2 [] IsComparison := by
  have read : Schema.ofValue? conditionOp.2 = some (.object
    (names ["eq", "ne", "exists", "missing"])) := rfl
  refine ⟨_, read, rfl, List.nil_subset _, ?_⟩
  rw [Schema.admits_object, Schema.admit_names]
  rfl

theorem reads_condition : Schema.Reads condition.2 [("#/$defs/ConditionOp", IsComparison)]
    (IsRecord ConditionShape) := by
  obtain ⟨d, read⟩ : ∃ d, Schema.ofValue? condition.2 = some (.object
    (("description", .text d) :: record
      [("op", .object (reference "#/$defs/ConditionOp")), ("path", .object (types [.string])),
        ("value", .always)]
      ["path", "op"])) := ⟨_, rfl⟩
  refine Schema.reads_record read rfl (List.Subset.refl _) fun ms => ?_
  simp only [Schema.membersAdmit_cons, Schema.membersAdmit_nil, Schema.admits_object,
    Schema.admits_always, Schema.admit_reference, Schema.admit_text, Schema.asksOf_cons_self,
    List.forall_mem_cons, List.not_mem_nil, conditionShape_iff, has_iff, mayHave_true,
    false_implies, implies_true, and_true]
  tauto

theorem reads_attribute : Schema.Reads scriptAttribute.2
    [("#/$defs/ChangeOperation", IsOperation)] (IsRecord AttributeShape) := by
  obtain ⟨d, e, read⟩ : ∃ d e, Schema.ofValue? scriptAttribute.2 = some (.object
    (("description", .text d) :: record
      [("copy_from", .object (("description", .text e) :: types [.string, .null])),
        ("operation", .object (reference "#/$defs/ChangeOperation")),
        ("path", .object (types [.string])), ("value", .always)]
      ["path", "operation"])) := ⟨_, _, rfl⟩
  refine Schema.reads_record read rfl (List.Subset.refl _) fun ms => ?_
  simp only [Schema.membersAdmit_cons, Schema.membersAdmit_nil, Schema.admits_object,
    Schema.admits_always, Schema.admit_described, Schema.admit_reference, Schema.admit_text,
    Schema.admit_nullableText, Schema.asksOf_cons_self, List.forall_mem_cons, List.not_mem_nil,
    attributeShape_iff, has_iff, mayHave_true, false_implies, implies_true, and_true]
  tauto

theorem reads_template : Schema.Reads scriptTemplate.2
    [("#/$defs/ScriptAttribute", IsRecord AttributeShape),
      ("#/$defs/ChangeOperation", IsOperation), ("#/$defs/Condition", IsRecord ConditionShape)]
    (IsRecord TemplateShape) := by
  obtain ⟨d, e, f, read⟩ : ∃ d e f, Schema.ofValue? scriptTemplate.2 = some (.object
    (("description", .text d) :: record
      [("attributes", .object (("description", .text e) ::
          list "#/$defs/ScriptAttribute" [.array, .null])),
        ("collection", .object (types [.string])),
        ("operation", .object (reference "#/$defs/ChangeOperation")),
        ("where", .object (("description", .text f) :: list "#/$defs/Condition" [.array]))]
      ["operation", "collection"])) := ⟨_, _, _, rfl⟩
  refine Schema.reads_record read rfl (List.Subset.refl _) fun ms => ?_
  simp [Schema.membersAdmit_cons, Schema.membersAdmit_nil, Schema.admits_object,
    Schema.admit_described, Schema.admit_reference, Schema.admit_text, Schema.admit_list,
    Schema.admit_nullableList, Schema.asksOf_cons_self, Schema.asksOf_cons_of_ne,
    templateShape_iff, has_iff]
  tauto

theorem reads_file : Schema.Reads scriptFile
    [("#/$defs/ScriptTemplate", IsRecord TemplateShape)] (IsRecord FileShape) := by
  obtain ⟨aside, c, d, t, read⟩ : ∃ aside c d t, Schema.ofValue? scriptFile = some (.object
    [("$defs", .many aside),
      ("$schema", .text "https://json-schema.org/draft/2020-12/schema"), ("description", .text d),
      ("properties", .many
        [("changes", .object (("default", .inert) :: ("description", .text c) ::
            list "#/$defs/ScriptTemplate" [.array, .null])),
          ("description", .object (types [.string, .null]))]),
      ("title", .text t), ("type", .assertion (.type [.object]))]) := ⟨_, _, _, _, rfl⟩
  refine ⟨_, read, rfl, List.Subset.refl _, ?_⟩
  rw [Schema.admits_object]
  funext v
  cases v with
  | object ms =>
    simp [Schema.KeywordsAdmit, Schema.ContentAdmits, Draft.isAside, Assertion.holds,
      TypeName.admits, IsRecord, Schema.membersAdmit_cons, Schema.membersAdmit_nil,
      Schema.admits_object, Schema.admit_nullableList, Schema.admit_nullableText,
      Schema.asksOf_cons_self, fileShape_iff, and_comm]
  | _ =>
    simp [Schema.KeywordsAdmit, Schema.ContentAdmits, Draft.isAside, Assertion.holds,
      TypeName.admits, IsRecord]

/-- The definitions of the schema by their names. -/
def parts : Object :=
  Object.ofList [operation, condition, conditionOp, scriptAttribute, scriptTemplate]

/-- The whole schema, with what references in it lead to. -/
def compiledSchema [Standards] : CompiledSchema :=
  ⟨scriptFile, .ofRoot scriptFile Standards.entries⟩

section Definitions

variable [Standards]

theorem lookup?_part (name text : String) {contents : Value}
    (pointer : pointerOf? text = some ["$defs", name]) (plain : Pointer.unescape name = name)
    (found : Object.get? name parts = some contents) :
    compiledSchema.resources.lookup? .outermost text = some ⟨contents, .outermost⟩ := by
  have whole : scriptFile = .object scriptFile.toObject := rfl
  have all : Object.get? "$defs" scriptFile.toObject = some (.object parts) := rfl
  have unnamed : Scope.textOf? "$id" (.object parts) = none := rfl
  have edition : Scope.textOf? "$schema" (.object parts) = none := rfl
  rw [compiledSchema, whole]
  exact lookup?_definition pointer plain all found unnamed edition

theorem defines : Schema.Defines compiledSchema.resources definitions := by
  have operation : Schema.Defines compiledSchema.resources
      [("#/$defs/ChangeOperation", IsOperation)] :=
    .cons (lookup?_part "ChangeOperation" _ (by decide +kernel) (by decide +kernel) rfl) rfl
      reads_operation (List.nil_subset _) .nil
  have comparison := operation.cons
    (lookup?_part "ConditionOp" "#/$defs/ConditionOp" (by decide +kernel) (by decide +kernel) rfl)
    rfl reads_comparison (List.nil_subset _)
  have condition := comparison.cons
    (lookup?_part "Condition" "#/$defs/Condition" (by decide +kernel) (by decide +kernel) rfl)
    rfl reads_condition (by simp)
  have attributes := condition.cons
    (lookup?_part "ScriptAttribute" "#/$defs/ScriptAttribute" (by decide +kernel)
      (by decide +kernel) rfl)
    rfl reads_attribute (by simp)
  exact attributes.cons
    (lookup?_part "ScriptTemplate" "#/$defs/ScriptTemplate" (by decide +kernel)
      (by decide +kernel) rfl)
    rfl reads_template (by simp)

theorem resources_eq : Resources.ofValue? scriptFile = some compiledSchema.resources := by
  have entries : Entry.ofSchema? .outermost scriptFile = some [] := by
    have unnamed : (Entry.ofSchema? .outermost scriptFile).map List.isEmpty = some true := by
      decide +kernel
    obtain ⟨entries, read, empty⟩ := Option.map_eq_some_iff.mp unnamed
    rw [read, List.isEmpty_iff.mp empty]
  simp [Resources.ofValue?, entries, compiledSchema]

end Definitions

end ScriptFile

theorem Registry.validate_eq_ok_iff [Standards] {name : String} {source : Value}
    {s : CompiledSchema} {v : Value} (registered : Registry.find? name = some source)
    (compiles : CompiledSchema.ofValue? source = some s) :
    Registry.validate name v = .ok () ↔ s.faults v = [] := by
  rw [Registry.validate, registered]
  simp only [compiles]
  cases found : s.faults v with
  | nil => simp [Registry.errorTexts, found]
  | cons f rest => simp [Registry.errorTexts, found]

/-- The schema of script files accepts just the values of their shape. -/
theorem Registry.validate_scriptFile_eq_ok_iff [Standards] {v : Value} :
    Registry.validate "script_file" v = .ok () ↔ IsRecord FileShape v := by
  have places : ScriptFile.definitions.length ≤ CompiledSchema.size scriptFile := by
    decide +kernel
  have few : ScriptFile.definitions.length ≤ CompiledSchema.places scriptFile :=
    places.trans (Nat.le_add_right _ _)
  have needed : [("#/$defs/ScriptTemplate", IsRecord TemplateShape)] ⊆ ScriptFile.definitions := by
    simp [ScriptFile.definitions]
  obtain ⟨compiles, faults⟩ := CompiledSchema.faults_eq_nil_iff_of_reads ScriptFile.reads_file
    needed ScriptFile.defines ScriptFile.resources_eq few
  rw [Registry.validate_eq_ok_iff rfl compiles, faults]

end DocumentMigration
