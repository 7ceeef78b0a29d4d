import DocumentMigration.Proofs.Json.Parser
import DocumentMigration.Proofs.Script.Decode
import DocumentMigration.Script.Load

/-!
Which scripts are accepted. What the schema lets through is decoded, so that a script is rejected
only by the rules that are checked after that; and these look at what is given in a script, where a
null is no more than a member that is left out.
-/
namespace DocumentMigration

open Json

/-- What a script can be rejected for though it has the right shape, and what is wrong with it then:
its changes are not given, or one of the conditions has no value to compare with or one too many, or
an attribute has two sources. -/
inductive ScriptFault.IsRuleFault (ms : Object) : ScriptFault → Prop where
  | shape : given? "changes" ms = none → IsRuleFault ms .noShape
  | needsValue {t c : Object} {collection : String} {condition : Condition} :
    t ∈ objectsAt "changes" ms → Object.get? "collection" t = some (.string collection) →
    c ∈ objectsAt "where" t → Condition.Of c condition → condition.comparison.takesValue →
    given? "value" c = none → IsRuleFault ms (.needsValue collection condition)
  | takesNoValue {t c : Object} {collection : String} {condition : Condition} :
    t ∈ objectsAt "changes" ms → Object.get? "collection" t = some (.string collection) →
    c ∈ objectsAt "where" t → Condition.Of c condition → ¬condition.comparison.takesValue →
    (given? "value" c).isSome → IsRuleFault ms (.takesNoValue collection condition)
  | twoSources {t a : Object} {path : String} :
    t ∈ objectsAt "changes" ms → a ∈ objectsAt "attributes" t →
    Object.get? "path" a = some (.string path) → (given? "value" a).isSome →
    (given? "copy_from" a).isSome → IsRuleFault ms (.twoSources path)

section Traversals

variable {ε α β : Type} {e : ε}

section Checks

variable {f : α → Except ε Unit} {xs : List α}

theorem forM_cons (f : α → Except ε Unit) (x : α) (xs : List α) :
    (x :: xs).forM f = (f x >>= fun _ => xs.forM f) := rfl

theorem forM_eq_ok_iff : xs.forM f = .ok () ↔ ∀ x ∈ xs, f x = .ok () := by
  induction xs with
  | nil => exact iff_of_true rfl nofun
  | cons x xs ih =>
    rw [forM_cons, Except.bind_eq_ok_iff, List.forall_mem_cons, ← ih]
    exact ⟨fun ⟨_, first, rest⟩ => ⟨first, rest⟩, fun ⟨first, rest⟩ => ⟨(), first, rest⟩⟩

theorem exists_of_forM_eq_error (failed : xs.forM f = .error e) : ∃ x ∈ xs, f x = .error e := by
  induction xs with
  | nil => cases failed
  | cons x xs ih =>
    rw [forM_cons] at failed
    rcases here : f x with e' | ⟨⟩
    · rw [here] at failed
      cases failed
      exact ⟨x, List.mem_cons_self, here⟩
    · rw [here] at failed
      obtain ⟨y, member, found⟩ := ih failed
      exact ⟨y, List.mem_cons_of_mem _ member, found⟩

end Checks

/-! A list that may not be there. -/

variable {f : α → Except ε β} {xs : Option (List α)}

theorem exists_mapM_iff : (∃ ys, xs.mapM (fun xs => xs.mapM f) = .ok ys) ↔
    ∀ x ∈ xs.getD [], ∃ y, f x = .ok y := by
  cases xs with
  | none => exact iff_of_true ⟨none, rfl⟩ nofun
  | some xs =>
    constructor
    · rintro ⟨ys, done⟩ x member
      obtain ⟨ys, done, -⟩ := Except.map_eq_ok_iff.mp done
      obtain ⟨y, -, here⟩ := Except.exists_mem_of_mapM done member
      exact ⟨y, here⟩
    · intro each
      obtain ⟨ys, done⟩ := Except.exists_mapM_eq_ok each
      exact ⟨some ys, Except.map_eq_ok_iff.mpr ⟨ys, done, rfl⟩⟩

theorem isSome_of_mapM {ys : Option (List β)}
    (done : xs.mapM (fun xs => xs.mapM f) = .ok ys) : ys.isSome = xs.isSome := by
  cases xs with
  | none =>
    cases done
    rfl
  | some xs =>
    obtain ⟨ys, -, rfl⟩ := Except.map_eq_ok_iff.mp done
    rfl

theorem exists_of_option_mapM_eq_error (failed : xs.mapM (fun xs => xs.mapM f) = .error e) :
    ∃ x ∈ xs.getD [], f x = .error e := by
  cases xs with
  | none => cases failed
  | some xs =>
    change (xs.mapM f).map some = .error e at failed
    rcases here : xs.mapM f with e' | ys
    · rw [here] at failed
      cases failed
      exact Except.exists_of_mapM_eq_error here
    · rw [here] at failed
      cases failed

end Traversals

section Records

variable {e : ScriptFault}

theorem Condition.check_eq_ok_iff (collection : String) {c : Condition} :
    c.check collection = .ok () ↔ c.value.isSome = c.comparison.takesValue := by
  unfold check
  cases c.comparison.takesValue <;> cases c.value <;> simp

theorem Condition.check_fails {collection : String} {c : Condition}
    (failed : c.check collection = .error e) :
    (c.comparison.takesValue = true ∧ c.value = none ∧ e = .needsValue collection c) ∨
      (c.comparison.takesValue = false ∧ c.value.isSome ∧ e = .takesNoValue collection c) := by
  unfold check at failed
  split at failed
  · next takes absent =>
    cases failed
    exact .inl ⟨takes, absent, rfl⟩
  · next takes present =>
    cases failed
    exact .inr ⟨takes, Option.isSome_iff_exists.mpr ⟨_, present⟩, rfl⟩
  · cases failed

theorem ScriptAttribute.template_eq_ok_iff {a : ScriptAttribute} :
    (∃ t, a.template = .ok t) ↔ ¬(a.value.isSome ∧ a.copyFrom.isSome) := by
  unfold template
  cases a.value <;> cases a.copyFrom <;> simp

theorem ScriptAttribute.template_fails {a : ScriptAttribute} (failed : a.template = .error e) :
    a.value.isSome ∧ a.copyFrom.isSome ∧ e = .twoSources a.path := by
  unfold template at failed
  cases value : a.value <;> cases copyFrom : a.copyFrom <;>
    simp_all

/-- A template passes when its conditions and its attributes do. -/
theorem ScriptTemplate.template_eq_ok_iff {t : ScriptTemplate} : (∃ c, t.template = .ok c) ↔
    (∀ c ∈ t.conditions, c.value.isSome = c.comparison.takesValue) ∧
      ∀ a ∈ t.attributes.getD [], ¬(a.value.isSome ∧ a.copyFrom.isSome) := by
  simp only [← Condition.check_eq_ok_iff t.collection, ← forM_eq_ok_iff,
    ← ScriptAttribute.template_eq_ok_iff, ← exists_mapM_iff, template, Except.bind_eq_ok_iff]
  constructor
  · rintro ⟨c, ⟨⟩, checked, changes, made, -⟩
    exact ⟨checked, changes, made⟩
  · rintro ⟨checked, changes, made⟩
    exact ⟨_, (), checked, changes, made, rfl⟩

/-- A template fails for one of its conditions or of its attributes. -/
theorem ScriptTemplate.template_fails {t : ScriptTemplate} (failed : t.template = .error e) :
    (∃ c ∈ t.conditions, c.check t.collection = .error e) ∨
      ∃ a ∈ t.attributes.getD [], a.template = .error e := by
  unfold template at failed
  rcases checked : t.conditions.forM (Condition.check t.collection) with e' | ⟨⟩
  · rw [checked] at failed
    cases failed
    exact .inl (exists_of_forM_eq_error checked)
  · rw [checked] at failed
    rcases made : t.attributes.mapM fun as => as.mapM ScriptAttribute.template with e' | changes
    · have same : e' = e := by simpa [made, bind, Except.bind] using failed
      exact .inr (same ▸ exists_of_option_mapM_eq_error made)
    · simp [made, bind, Except.bind, pure, Except.pure] at failed

namespace ScriptFile

variable {f : ScriptFile}

theorem templates_eq_ok_iff : (∃ ts, f.templates = .ok ts) ↔
    f.changes.isSome ∧ ∀ t ∈ f.changes.getD [], ∃ c, t.template = .ok c := by
  rw [← exists_mapM_iff]
  unfold templates
  constructor
  · rintro ⟨ts, ended⟩
    obtain ⟨made, done, ended⟩ := Except.bind_eq_ok_iff.mp ended
    refine ⟨?_, made, done⟩
    rw [← isSome_of_mapM done]
    cases made with
    | none => cases ended
    | some _ => rfl
  · rintro ⟨given, made, done⟩
    rw [← isSome_of_mapM done] at given
    obtain ⟨ts, rfl⟩ := Option.isSome_iff_exists.mp given
    exact ⟨ts, Except.bind_eq_ok_iff.mpr ⟨some ts, done, rfl⟩⟩

theorem templates_fails (failed : f.templates = .error e) :
    f.changes = none ∧ e = .noShape ∨ ∃ t ∈ f.changes.getD [], t.template = .error e := by
  unfold templates at failed
  rcases made : f.changes.mapM fun ts => ts.mapM ScriptTemplate.template with e' | changes
  · have same : e' = e := by simpa [made, bind, Except.bind] using failed
    exact .inr (same ▸ exists_of_option_mapM_eq_error made)
  · have given := isSome_of_mapM made
    rw [made] at failed
    cases changes with
    | none =>
      cases failed
      exact .inl ⟨Option.isNone_iff_eq_none.mp (by simpa using given.symm), rfl⟩
    | some ts => cases failed

end ScriptFile

end Records

/-! The rules of a script, read off the objects in it. -/

/-- Whether a member counts as there. -/
abbrev Presence := String → Object → Prop

def Presence.member : Presence := fun key ms => (Object.get? key ms).isSome

def Presence.given : Presence := fun key ms => (given? key ms).isSome

/-- Comparisons come with a value, tests for presence without one. -/
@[mk_iff]
structure ConditionRule (has : Presence) (c : Object) : Prop where
  compares : ∀ op ∈ ["eq", "ne"], Object.get? "op" c = some (.string op) → has "value" c
  tests : ∀ op ∈ ["exists", "missing"], Object.get? "op" c = some (.string op) → ¬has "value" c

/-- An attribute has one source at most. -/
def AttributeRule (has : Presence) (a : Object) : Prop := ¬(has "value" a ∧ has "copy_from" a)

/-- A script with changes that are not null, whose conditions and attributes keep their rules. -/
@[mk_iff]
structure KeepsRules (has : Presence) (ms : Object) : Prop where
  changes : ∃ v, Object.get? "changes" ms = some v ∧ v ≠ .null
  conditions : ∀ t ∈ objectsAt "changes" ms, ∀ c ∈ objectsAt "where" t, ConditionRule has c
  attributes : ∀ t ∈ objectsAt "changes" ms, ∀ a ∈ objectsAt "attributes" t, AttributeRule has a

section Rules

variable {ms : Object} {v : Value}

theorem isSome_given?_iff {key : String} :
    (given? key ms).isSome ↔ ∃ v, Object.get? key ms = some v ∧ v ≠ .null := by
  unfold given?
  split
  · next null => simp [null]
  · next other =>
    constructor
    · intro given
      obtain ⟨v, found⟩ := Option.isSome_iff_exists.mp given
      exact ⟨v, found, fun null => other (null ▸ found)⟩
    · rintro ⟨v, found, -⟩
      simp [found]

theorem Condition.Of.rule_iff {c : Condition} (h : Condition.Of ms c) :
    ConditionRule .given ms ↔ c.value.isSome = c.comparison.takesValue := by
  have value : Presence.given "value" ms ↔ c.value.isSome := by rw [h.value]; rfl
  have named (op : String) : Object.get? "op" ms = some (.string op) ↔ c.comparison.name = op := by
    rw [h.comparison]
    simp
  rw [conditionRule_iff]
  simp only [named, value, List.forall_mem_cons]
  cases c.comparison <;> simp [Comparison.name, Comparison.takesValue]

theorem ScriptAttribute.Of.rule_iff {a : ScriptAttribute} (h : ScriptAttribute.Of ms a) :
    AttributeRule .given ms ↔ ¬(a.value.isSome ∧ a.copyFrom.isSome) := by
  have copyFrom : a.copyFrom.isSome = (given? "copy_from" ms).isSome := by
    rw [← h.copyFrom, Option.isSome_map]
  rw [h.value, copyFrom]
  rfl

theorem ScriptTemplate.Of.rules_iff {t : ScriptTemplate} (h : ScriptTemplate.Of ms t) :
    ((∀ c ∈ objectsAt "where" ms, ConditionRule .given c) ∧
      ∀ a ∈ objectsAt "attributes" ms, AttributeRule .given a) ↔ ∃ c, t.template = .ok c := by
  have conditions := forall_iff_of_forall₂
    (fun ms c (h : Condition.Of ms c) => h.rule_iff) h.conditions
  have attributes := forall_iff_of_forall₂
    (fun ms a (h : ScriptAttribute.Of ms a) => h.rule_iff) h.attributes
  rw [ScriptTemplate.template_eq_ok_iff, conditions, attributes]

theorem ScriptFile.Of.rules_iff {f : ScriptFile} (h : ScriptFile.Of ms f) :
    KeepsRules .given ms ↔ ∃ ts, f.templates = .ok ts := by
  have templates := forall_iff_of_forall₂
    (fun ms t (h : ScriptTemplate.Of ms t) => h.rules_iff) h.changes
  rw [ScriptFile.templates_eq_ok_iff, h.given, isSome_given?_iff, ← templates]
  constructor
  · rintro ⟨changes, conditions, attributes⟩
    exact ⟨changes, fun t member => ⟨conditions t member, attributes t member⟩⟩
  · rintro ⟨changes, rules⟩
    exact ⟨changes, fun t member => (rules t member).1, fun t member => (rules t member).2⟩

/-! What a fault says of the objects. -/

variable {e : ScriptFault}

theorem Condition.Of.fault {t : Object} {c : Condition} {collection : String}
    (h : Condition.Of ms c) (template : t ∈ objectsAt "changes" v.toObject)
    (named : Object.get? "collection" t = some (.string collection))
    (inside : ms ∈ objectsAt "where" t) (failed : c.check collection = .error e) :
    e.IsRuleFault v.toObject := by
  rcases Condition.check_fails failed with ⟨takes, absent, rfl⟩ | ⟨takes, present, rfl⟩
  · rw [h.value] at absent
    exact .needsValue template named inside h takes absent
  · rw [h.value] at present
    exact .takesNoValue template named inside h (by simp [takes]) present

theorem ScriptAttribute.Of.fault {t : Object} {a : ScriptAttribute} (h : ScriptAttribute.Of ms a)
    (template : t ∈ objectsAt "changes" v.toObject) (inside : ms ∈ objectsAt "attributes" t)
    (failed : a.template = .error e) : e.IsRuleFault v.toObject := by
  obtain ⟨value, copyFrom, rfl⟩ := ScriptAttribute.template_fails failed
  rw [h.value] at value
  rw [← Option.isSome_map, h.copyFrom] at copyFrom
  exact .twoSources template inside h.path value copyFrom

theorem ScriptTemplate.Of.fault {t : ScriptTemplate} (h : ScriptTemplate.Of ms t)
    (inside : ms ∈ objectsAt "changes" v.toObject) (failed : t.template = .error e) :
    e.IsRuleFault v.toObject := by
  rcases ScriptTemplate.template_fails failed with ⟨c, member, here⟩ | ⟨a, member, here⟩
  · obtain ⟨object, found, of⟩ := exists_of_forall₂ h.conditions member
    exact of.fault inside h.collection found here
  · obtain ⟨object, found, of⟩ := exists_of_forall₂ h.attributes member
    exact of.fault inside found here

theorem ScriptFile.Of.fault {f : ScriptFile} (h : ScriptFile.Of v.toObject f)
    (failed : f.templates = .error e) : e.IsRuleFault v.toObject := by
  rcases ScriptFile.templates_fails failed with ⟨absent, rfl⟩ | ⟨t, member, here⟩
  · refine .shape (Option.isNone_iff_eq_none.mp ?_)
    rw [← Option.not_isSome, ← h.given, absent]
    rfl
  · obtain ⟨object, found, of⟩ := exists_of_forall₂ h.changes member
    exact of.fault found here

end Rules

section Parse

variable {format : ScriptFormat} {text : String} {v : Value}

/-- What the schema lets through is decoded, and then parsing is checking the rules. -/
theorem exists_scriptFile_of_valid [FloatReader] [Standards]
    (fits : Registry.validate "script_file" v = .ok ()) (plain : PlainTemplates v.toObject) :
    ∃ f, ScriptFile.decode v = .ok f ∧ ScriptFile.Of v.toObject f ∧
      ∀ format text, format.read? text = some v → parseScript format text = f.templates := by
  obtain ⟨ms, rfl, shape⟩ := Registry.validate_scriptFile_eq_ok_iff.mp fits
  obtain ⟨f, decoded, same⟩ := ScriptFile.decode_of_shape shape plain
  refine ⟨f, decoded, same, ?_⟩
  intro format text read
  have file : ScriptFile.ofValue (.object ms) = .ok f := by
    -- The schema is checked already, and need not be compiled once more.
    unfold ScriptFile.ofValue
    generalize Registry.validate "script_file" (.object ms) = checked at fits
    subst fits
    rw [decoded]
    rfl
  rw [parseScript, read]
  simp only [file]
  rfl

/-- The schema and the decoder of script files do not drift apart: every value that fits the schema
and writes attributes under their first name is decoded to what is given in it, and its script can
be rejected only for what the rules say of it. -/
theorem scriptFile_decodes_of_valid [FloatReader] [Standards]
    (fits : Registry.validate "script_file" v = .ok ()) (plain : PlainTemplates v.toObject) :
    (∃ f, ScriptFile.decode v = .ok f ∧ ScriptFile.Of v.toObject f) ∧
      ∀ format text, format.read? text = some v →
        ∀ fault, parseScript format text = .error fault → fault.IsRuleFault v.toObject := by
  obtain ⟨f, decoded, same, parsed⟩ := exists_scriptFile_of_valid fits plain
  refine ⟨⟨f, decoded, same⟩, ?_⟩
  intro format text read fault failed
  rw [parsed format text read] at failed
  exact same.fault failed

namespace Sample

attribute [local instance] FloatReader.exact Standards.bare

def comparison (value : Value) : Object :=
  [("op", .string "eq"), ("path", .string "email"), ("value", value)]

def copying : Object :=
  [("copy_from", .string "email"), ("operation", .string "update"), ("path", .string "contact")]

def renewal (value : Value) : Object :=
  [("attributes", .array [.object copying]), ("collection", .string "users"),
    ("operation", .string "update"), ("where", .array [.object (comparison value)])]

/-- A script with one condition and one attribute. -/
def renewals (value : Value) : Object := [("changes", .array [.object (renewal value)])]

theorem shape_renewals (value : Value) : FileShape (renewals value) := by
  have condition : ConditionShape (comparison value) :=
    ⟨⟨_, rfl, _, rfl⟩, _, rfl, "eq", by decide, rfl⟩
  have copies : AttributeShape copying :=
    ⟨⟨_, rfl, _, rfl⟩, ⟨_, rfl, "update", by decide, rfl⟩, mayHave_of_get? rfl (.inr ⟨_, rfl⟩)⟩
  have template : TemplateShape (renewal value) := by
    refine ⟨⟨_, rfl, "update", by decide, rfl⟩, ⟨_, rfl, _, rfl⟩, mayHave_of_get? rfl ?_,
      mayHave_of_get? rfl (.inr ?_)⟩
    · exact ⟨_, rfl, List.forall_mem_singleton.mpr ⟨_, rfl, condition⟩⟩
    · exact ⟨_, rfl, List.forall_mem_singleton.mpr ⟨_, rfl, copies⟩⟩
  refine ⟨mayHave_of_absent rfl, mayHave_of_get? rfl (.inr ?_)⟩
  exact ⟨_, rfl, List.forall_mem_singleton.mpr ⟨_, rfl, template⟩⟩

theorem valid_renewals (value : Value) :
    Registry.validate "script_file" (.object (renewals value)) = .ok () :=
  Registry.validate_scriptFile_eq_ok_iff.mpr ⟨_, rfl, shape_renewals value⟩

theorem plain_renewals (value : Value) : PlainTemplates (renewals value) :=
  List.forall_mem_singleton.mpr rfl

/-- A script that fits the schema and lacks what it has to compare with. -/
theorem scriptFile_decodes_of_renewals :
    Registry.validate "script_file" (.object (renewals .null)) = .ok () ∧
    PlainTemplates (renewals .null) ∧
    (∃ f, ScriptFile.decode (.object (renewals .null)) = .ok f ∧
      ScriptFile.Of (renewals .null) f) ∧
    ∀ format text, format.read? text = some (.object (renewals .null)) →
      ∀ fault, parseScript format text = .error fault → fault.IsRuleFault (renewals .null) :=
  ⟨valid_renewals .null, plain_renewals .null,
    scriptFile_decodes_of_valid (valid_renewals .null) (plain_renewals .null)⟩

end Sample

/-- A script in which no condition has a null to compare with and no attribute a null source. -/
structure WithoutNulls (ms : Object) : Prop where
  conditions : ∀ t ∈ objectsAt "changes" ms, ∀ c ∈ objectsAt "where" t,
    Object.get? "value" c ≠ some .null
  attributes : ∀ t ∈ objectsAt "changes" ms, ∀ a ∈ objectsAt "attributes" t,
    Object.get? "value" a ≠ some .null ∧ Object.get? "copy_from" a ≠ some .null

theorem given_iff_member {key : String} {ms : Object} (other : Object.get? key ms ≠ some .null) :
    Presence.given key ms ↔ Presence.member key ms := by
  rw [Presence.given, isSome_given?_iff, Presence.member, Option.isSome_iff_exists]
  exact exists_congr fun v => and_iff_left_of_imp fun found null => other (null ▸ found)

/-- Without nulls it makes no difference whether a member is there or given. -/
theorem WithoutNulls.rules_iff {ms : Object} (h : WithoutNulls ms) :
    KeepsRules .given ms ↔ KeepsRules .member ms := by
  rw [keepsRules_iff, keepsRules_iff]
  refine and_congr_right fun _ => and_congr ?_ ?_
  · refine forall₂_congr fun t member => forall₂_congr fun c inside => ?_
    rw [conditionRule_iff, conditionRule_iff, given_iff_member (h.conditions t member c inside)]
  · refine forall₂_congr fun t member => forall₂_congr fun a inside => ?_
    obtain ⟨value, copyFrom⟩ := h.attributes t member a inside
    rw [AttributeRule, AttributeRule, given_iff_member value, given_iff_member copyFrom]

/-- A script that fits the schema is accepted just when it keeps its rules, where a null counts as
a member that is left out. The rules can be read with a null as a value only for scripts without
such nulls. -/
theorem parseScript_succeeds_iff [FloatReader] [Standards] (read : format.read? text = some v)
    (fits : Registry.validate "script_file" v = .ok ()) (plain : PlainTemplates v.toObject) :
    ((∃ ts, parseScript format text = .ok ts) ↔ KeepsRules .given v.toObject) ∧
      (WithoutNulls v.toObject →
        ((∃ ts, parseScript format text = .ok ts) ↔ KeepsRules .member v.toObject)) := by
  obtain ⟨f, -, same, parsed⟩ := exists_scriptFile_of_valid fits plain
  have accepted : (∃ ts, parseScript format text = .ok ts) ↔ KeepsRules .given v.toObject := by
    rw [parsed format text read, same.rules_iff]
  exact ⟨accepted, fun free => accepted.trans free.rules_iff⟩

end Parse

namespace Sample

attribute [local instance] FloatReader.exact Standards.bare

theorem canonical_renewals {value : Value} (canonical : value.Canonical) :
    (Value.object (renewals value)).Canonical := by
  have keys : ["attributes", "collection", "operation", "where"].Pairwise (· < ·) ∧
      ["op", "path", "value"].Pairwise (· < ·) ∧
        ["copy_from", "operation", "path"].Pairwise (· < ·) := by decide +kernel
  obtain ⟨template, condition, source⟩ := keys
  have copies : (Value.object copying).Canonical := ⟨source, trivial, trivial, trivial, trivial⟩
  have compares : (Value.object (comparison value)).Canonical :=
    ⟨condition, trivial, trivial, canonical, trivial⟩
  have renews : (Value.object (renewal value)).Canonical :=
    ⟨template, ⟨copies, trivial⟩, trivial, trivial, ⟨compares, trivial⟩, trivial⟩
  exact ⟨List.pairwise_singleton _ _, ⟨renews, trivial⟩, trivial⟩

theorem read_renewals {value : Value} (canonical : value.Canonical)
    (shallow : (Value.object (renewals value)).depth ≤ 127) :
    ScriptFormat.json.read? (Value.object (renewals value)).compact =
      some (.object (renewals value)) := by
  show Value.ofText? nestingLimit _ = _
  rw [Value.ofText?_compact nestingLimit (canonical_renewals canonical)]
  refine (if_pos shallow).trans ?_
  exact Value.steady_of_faithful FloatReader.faithful_exact _

theorem keepsRules_renewals {has : Presence} {value : Value}
    (compares : has "value" (comparison value)) (copies : ¬has "value" copying) :
    KeepsRules has (renewals value) := by
  refine ⟨⟨_, rfl, nofun⟩, List.forall_mem_singleton.mpr (List.forall_mem_singleton.mpr ?_),
    List.forall_mem_singleton.mpr (List.forall_mem_singleton.mpr fun both => copies both.1)⟩
  refine ⟨fun _ _ _ => compares, fun op member here => ?_⟩
  cases here
  exact absurd member (by decide)

/-- A script that compares with `true` is accepted, whichever way its rules are read. -/
theorem parseScript_succeeds_iff_of_renewals :
    (∃ ts, parseScript .json (Value.object (renewals (.bool true))).compact = .ok ts) ∧
      KeepsRules .given (renewals (.bool true)) ∧ WithoutNulls (renewals (.bool true)) ∧
      KeepsRules .member (renewals (.bool true)) := by
  have kept : KeepsRules .given (renewals (.bool true)) := keepsRules_renewals rfl nofun
  have free : WithoutNulls (renewals (.bool true)) :=
    ⟨List.forall_mem_singleton.mpr (List.forall_mem_singleton.mpr nofun),
      List.forall_mem_singleton.mpr (List.forall_mem_singleton.mpr ⟨nofun, nofun⟩)⟩
  have read : ScriptFormat.json.read? (Value.object (renewals (.bool true))).compact =
      some (.object (renewals (.bool true))) := read_renewals trivial (by decide)
  obtain ⟨given, member⟩ := parseScript_succeeds_iff read (valid_renewals (.bool true))
    (plain_renewals (.bool true))
  have accepted := given.mpr kept
  exact ⟨accepted, kept, free, (member free).mp accepted⟩

/-- A script that compares with null fits the schema and has every member that it needs, and is
rejected all the same. -/
theorem nullComparison_rejected :
    ScriptFormat.json.read? (Value.object (renewals .null)).compact =
        some (.object (renewals .null)) ∧
      Registry.validate "script_file" (.object (renewals .null)) = .ok () ∧
      PlainTemplates (renewals .null) ∧ KeepsRules .member (renewals .null) ∧
      ¬∃ ts, parseScript .json (Value.object (renewals .null)).compact = .ok ts := by
  have read : ScriptFormat.json.read? (Value.object (renewals .null)).compact = _ :=
    read_renewals trivial (by decide)
  have fits := valid_renewals .null
  have plain := plain_renewals .null
  refine ⟨read, fits, plain, keepsRules_renewals rfl nofun, ?_⟩
  obtain ⟨f, -, same, parsed⟩ := exists_scriptFile_of_valid fits plain
  rw [parsed _ _ read, ← same.rules_iff]
  intro kept
  have given : Presence.given "value" (comparison .null) :=
    (kept.conditions _ List.mem_cons_self _ List.mem_cons_self).compares "eq" (by decide) rfl
  cases given

end Sample

end DocumentMigration
