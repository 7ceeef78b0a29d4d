import DocumentMigration.Proofs.Schema.Causes
import DocumentMigration.Proofs.Schema.Collection
import DocumentMigration.Proofs.Schema.Merge

/-!
Broken rules. At a common keyword a violation tells the rule and where it was broken, and nothing
else of the value. So all violations of one such rule, whatever documents they stand in, are one
record.
-/
namespace DocumentMigration

open Json

/-- The keywords with a message that is told from the schema and the name of a missing member. -/
def commonKeywords : List String :=
  ["type", "required", "enum", "const", "minimum", "maximum", "exclusiveMinimum",
    "exclusiveMaximum", "minLength", "maxLength", "minItems", "maxItems", "pattern", "format"]

namespace Place.EndsIn

variable {p q : Place} {keywords others : List String}

theorem congr (h : p.EndsIn keywords) (same : p.schemaPath = q.schemaPath) :
    q.EndsIn keywords := by
  rwa [EndsIn, ← same]

theorem both (h : p.EndsIn keywords) (h' : p.EndsIn others) :
    ∃ keyword ∈ keywords, keyword ∈ others ∧ p.schemaPath.getLast? = some keyword := by
  obtain ⟨keyword, member, last⟩ := h
  obtain ⟨name, other, again⟩ := h'
  obtain rfl : keyword = name := Option.some.inj (last.symm.trans again)
  exact ⟨keyword, member, other, last⟩

end Place.EndsIn

namespace Fault

variable {f g : Fault}

/-- The member that a fault says to be missing. -/
def missing? (f : Fault) : Option String :=
  match f.cause with
  | .missing property => some property
  | _ => none

/-- The rule that a fault breaks: a place in the schema and, among required members, the missing
one. -/
def rule (f : Fault) : List String × Option String :=
  (f.place.schemaPath,
    if f.place.schemaPath.getLast? = some "required" then f.missing? else none)

theorem rule_eq (telling : f.Telling) (common : f.place.EndsIn commonKeywords) :
    f.rule = (f.place.schemaPath, f.missing?) := by
  obtain ⟨place, cause⟩ := f
  unfold rule
  split
  · rfl
  · next other =>
    -- Of the keywords for missing members, only the required ones are common.
    cases cause
    case missing property =>
      obtain ⟨keyword, member, either, last⟩ := common.both telling
      simp only [List.mem_cons, List.not_mem_nil, or_false] at either
      rcases either with rfl | rfl | rfl
      · exact absurd last other
      · exact absurd member (by decide)
      · exact absurd member (by decide)
    all_goals rfl

end Fault

namespace Violation

variable {schema : Value} {f g : Fault}

theorem escape_common : ∀ keyword ∈ commonKeywords,
    Pointer.escape keyword = keyword ∧ keyword.isEmpty = false := by
  decide

theorem keywordOf_eq {keyword : String} {path : List String} (common : keyword ∈ commonKeywords)
    (last : path.getLast? = some keyword) : keywordOf path = keyword := by
  obtain ⟨plain, nonempty⟩ := escape_common keyword common
  simp [keywordOf, List.getLastD_eq_getLast?, last, plain, nonempty]

theorem keywordOf_mem {p : Place} (common : p.EndsIn commonKeywords) :
    keywordOf p.schemaPath ∈ commonKeywords := by
  obtain ⟨keyword, member, last⟩ := common
  rwa [keywordOf_eq member last]

theorem commonMessage?_isSome {keyword : String} (common : keyword ∈ commonKeywords)
    (params : Object) : (commonMessage? keyword params).isSome := by
  revert keyword
  simp [commonKeywords, commonMessage?]

/-- What the schema says at a rule, or the missing member. -/
def paramsOfRule (schema : Value) (rule : List String × Option String) : Object :=
  match rule.2 with
  | some property => [("missingProperty", .string property)]
  | none => [(keywordOf rule.1, (Pointer.lookup? rule.1 schema).getD .null)]

/-- The violation of a rule at a place of the value. -/
def ofRule (schema : Value) (rule : List String × Option String) (path : List String) :
    Violation :=
  let keyword := keywordOf rule.1
  let params := paramsOfRule schema rule
  { keyword
    instancePath := Pointer.text path
    schemaPath := "#" ++ Pointer.text rule.1
    params := .object params
    message := (commonMessage? keyword params).getD "" }

theorem paramsOf_eq (telling : f.Telling) (common : f.place.EndsIn commonKeywords) :
    paramsOf schema f = paramsOfRule schema f.rule := by
  rw [f.rule_eq telling common]
  obtain ⟨place, cause⟩ := f
  cases cause
  case unexpected names =>
    obtain ⟨keyword, member, only, -⟩ := common.both telling
    rw [List.mem_singleton.mp only] at member
    exact absurd member (by decide)
  all_goals rfl

/-- Nothing but the place depends on the value, once the rule is known. -/
theorem ofFault_eq (telling : f.Telling) (common : f.place.EndsIn commonKeywords) :
    ofFault schema f = ofRule schema f.rule f.place.instancePath := by
  obtain ⟨message, told⟩ := Option.isSome_iff_exists.mp
    (commonMessage?_isSome (keywordOf_mem common) (paramsOfRule schema f.rule))
  have here : f.rule.1 = f.place.schemaPath := rfl
  rw [ofFault, paramsOf_eq telling common, ofRule, here, told]
  rfl

/-- The parameters tell the missing member. -/
theorem missing_eq_of_paramsOfRule {path : List String} {missing missing' : Option String}
    (common : keywordOf path ∈ commonKeywords)
    (same : (Value.object (paramsOfRule schema (path, missing))).sorted =
      (Value.object (paramsOfRule schema (path, missing'))).sorted) : missing = missing' := by
  have other : keywordOf path ≠ "missingProperty" := fun named => by
    rw [named] at common
    exact absurd common (by decide)
  have single (key : String) (v : Value) :
      (Value.object [(key, v)]).sorted = .object [(key, v.sorted)] := rfl
  cases missing <;> cases missing' <;> simp only [paramsOfRule, single, Value.object.injEq,
    List.cons.injEq, Prod.mk.injEq, and_true] at same
  · rfl
  · exact absurd same.1 other
  · exact absurd same.1.symm other
  · exact congrArg some (Value.string.inj same.2)

section Rules

variable (telling : f.Telling) (telling' : g.Telling) (common : f.place.EndsIn commonKeywords)

include telling telling' common

/-- Violations of one rule differ at most in where it was broken. -/
theorem ofFault_eq_of_rule (same : f.rule = g.rule) : ofFault schema g =
    { ofFault schema f with instancePath := Pointer.text g.place.instancePath } := by
  have here : f.place.schemaPath = g.place.schemaPath := congrArg Prod.fst same
  rw [ofFault_eq telling common, ofFault_eq telling' (common.congr here), same]
  simp only [ofRule]

theorem rule_eq_of_params (here : f.place.schemaPath = g.place.schemaPath)
    (same : (ofFault schema f).params.sorted = (ofFault schema g).params.sorted) :
    f.rule = g.rule := by
  have common' := common.congr here
  rw [ofFault, ofFault, paramsOf_eq telling common, paramsOf_eq telling' common',
    f.rule_eq telling common, g.rule_eq telling' common', ← here] at same
  rw [f.rule_eq telling common, g.rule_eq telling' common', ← here,
    missing_eq_of_paramsOfRule (keywordOf_mem common) same]

/-- What merging compares tells the rules apart. -/
theorem rule_ofFault_eq_iff :
    (ofFault schema f).rule = (ofFault schema g).rule ↔ f.rule = g.rule := by
  constructor
  · intro same
    obtain ⟨-, same⟩ := Prod.mk.inj same
    obtain ⟨-, same⟩ := Prod.mk.inj same
    obtain ⟨place, params⟩ := Prod.mk.inj same
    have here := Pointer.text_injective ((String.append_right_inj "#").mp place)
    have sorted := Value.compact_injective (Value.canonical_sorted _) (Value.canonical_sorted _)
      params
    exact rule_eq_of_params telling telling' common here sorted
  · intro same
    rw [ofFault_eq_of_rule telling telling' common same]
    simp only [Violation.rule]

/-- Two rules at one place are about two required members. -/
theorem required_of_rule_ne (other : f.rule ≠ g.rule)
    (place : (ofFault schema g).schemaPath = (ofFault schema f).schemaPath) :
    (ofFault schema g).keyword = "required" ∧
      (ofFault schema g).params ≠ (ofFault schema f).params := by
  have here : g.place.schemaPath = f.place.schemaPath :=
    Pointer.text_injective ((String.append_right_inj "#").mp place)
  constructor
  · have last : g.place.schemaPath.getLast? = some "required" := by
      by_contra elsewhere
      exact other (by rw [Fault.rule, Fault.rule, ← here, if_neg elsewhere, if_neg elsewhere])
    simp only [ofFault]
    exact keywordOf_eq (by decide) last
  · intro same
    exact other (rule_eq_of_params telling telling' common here.symm (congrArg _ same.symm))

end Rules

end Violation

/-- How a fault of a collection is reported. -/
abbrev Fault.reported (item : Value) (f : Fault) : Violation :=
  .ofFault (collectionSchema item) f

/-- The faults of a collection. -/
abbrev CompiledSchema.faultsIn [Standards] (whole : CompiledSchema) (documents : List Snapshot) :
    List Fault :=
  whole.faults (.array (documents.map fun d => .object d.data))

/-- At the common keywords, one broken rule is one record. Two violations of the same rule, in
whatever documents, differ at most in where they stand. All violations of the rule are members of
one record; another record at the same place of the schema is about another required member. -/
theorem validateCollection_merges_rules [Standards] {item : Value} {whole : CompiledSchema}
    (compiles : CompiledSchema.ofValue? (collectionSchema item) = some whole) :
    (∀ documents others, ∀ f ∈ whole.faultsIn documents, ∀ g ∈ whole.faultsIn others,
      f.place.EndsIn commonKeywords → f.rule = g.rule → g.reported item =
        { f.reported item with instancePath := Pointer.text g.place.instancePath }) ∧
    ∀ documents,
      validateCollection item documents =
        .ok ((whole.faultsIn documents).map (·.reported item)) ∧
      ∀ f ∈ whole.faultsIn documents, f.place.EndsIn commonKeywords → ∃ before after,
        mergeViolations ((whole.faultsIn documents).map (·.reported item)) =
          before ++ .ofMembers (f.reported item)
            (((whole.faultsIn documents).filter fun g => f.rule = g.rule).map (·.reported item))
              :: after ∧
        ∀ m ∈ before ++ after, m.violation.schemaPath = (f.reported item).schemaPath →
          m.violation.keyword = "required" ∧ m.violation.params ≠ (f.reported item).params := by
  have telling (documents : List Snapshot) {f : Fault} (found : f ∈ whole.faultsIn documents) :
      f.Telling := whole.telling_faults _ f found
  refine ⟨fun documents others f found g found' common same => ?_, fun documents => ⟨?_, ?_⟩⟩
  · exact Violation.ofFault_eq_of_rule (telling _ found) (telling _ found') common same
  · exact validateCollection_eq_ok documents compiles
  · intro f found common
    have iff : ∀ g ∈ whole.faultsIn documents,
        ((f.reported item).rule = (g.reported item).rule ↔ f.rule = g.rule) := fun g found' =>
      Violation.rule_ofFault_eq_iff (telling _ found) (telling _ found') common
    obtain ⟨h, found', same, before, after, merged, apart⟩ :=
      mergeViolations_of_mem (·.reported item) found
    have first : h.reported item = { f.reported item with
        instancePath := Pointer.text h.place.instancePath } :=
      Violation.ofFault_eq_of_rule (telling _ found) (telling _ found') common
        ((iff h found').mp same.symm)
    refine ⟨before, after, ?_, ?_⟩
    · rw [merged, first, MergedViolation.ofMembers_at,
        List.filter_congr fun g found' => decide_eq_decide.mpr (iff g found')]
    · intro m other place
      obtain ⟨g, found', different, members, rfl⟩ := apart m other
      simp only [MergedViolation.ofMembers] at place ⊢
      exact Violation.required_of_rule_ne (telling _ found) (telling _ found') common
        (mt (iff g found').mpr different.symm) place

namespace Sample

/-- A date has a year, a month and a day in digits. -/
def isDate (text : String) : Bool :=
  match text.toList.splitOn '-' with
  | [year, month, day] =>
    [year, month, day].map List.length = [4, 2, 2] && (year ++ month ++ day).all Char.isDigit
  | _ => false

/-- The one format that is known here. -/
@[reducible]
def dates : Standards where
  fits _ keyword texts text := keyword ≠ "format" || texts "format" ≠ some "date" || isDate text
  schemas := []

attribute [local instance] dates

/-- A berth is for a boat of at most twelve metres, and taken since a day. Formats are asked for in
the edition that it names. -/
def berth : Value := .object
  [("$schema", .string "http://json-schema.org/draft-07/schema#"),
    ("properties", .object
      [("length", .object [("maximum", .number (.ofNat 12)), ("type", .string "integer")]),
        ("since", .object [("format", .string "date")])]),
    ("required", .ofStrings ["boat", "length"])]

/-- Two boats that are too long, one of them without a name, and a berth about which little is
known. -/
def berths : List Snapshot :=
  [⟨"b1", [("boat", .string "Argo"), ("length", .number (.ofNat 15)),
      ("since", .string "2024-05-17")]⟩,
    ⟨"b2", [("length", .number (.ofNat 40)), ("since", .string "last May")]⟩,
    ⟨"b3", [("since", .string "2024")]⟩]

/-- What is not a date makes one record, and so does the missing name. -/
theorem validateCollection_merges_berths : ∃ whole,
    CompiledSchema.ofValue? (collectionSchema berth) = some whole ∧
    ∀ broken ∈ [((["items", "properties", "since", "format"], none),
          [["1", "since"], ["2", "since"]]),
        ((["items", "required"], some "boat"), [["1"], ["2"]])],
      ∃ f ∈ whole.faultsIn berths, f.rule = broken.1 ∧ f.place.EndsIn commonKeywords ∧
        (∃ before after, mergeViolations ((whole.faultsIn berths).map (·.reported berth)) =
          before ++ .ofMembers (f.reported berth)
            (((whole.faultsIn berths).filter fun g => f.rule = g.rule).map (·.reported berth))
              :: after) ∧
        ((whole.faultsIn berths).filter fun g => f.rule = g.rule).map (·.place.instancePath) =
          broken.2 := by
  obtain ⟨whole, compiles⟩ := Option.isSome_iff_exists.mp
    (show (CompiledSchema.ofValue? (collectionSchema berth)).isSome by decide +kernel)
  have told : (CompiledSchema.ofValue? (collectionSchema berth)).map (fun whole =>
      (whole.faultsIn berths).map fun f => (f.rule, f.place.instancePath)) = some
        [((["items", "properties", "length", "maximum"], none), ["0", "length"]),
          ((["items", "properties", "length", "maximum"], none), ["1", "length"]),
          ((["items", "properties", "since", "format"], none), ["1", "since"]),
          ((["items", "required"], some "boat"), ["1"]),
          ((["items", "properties", "since", "format"], none), ["2", "since"]),
          ((["items", "required"], some "boat"), ["2"]),
          ((["items", "required"], some "length"), ["2"])] := by
    decide +kernel
  rw [compiles, Option.map_some, Option.some.injEq] at told
  refine ⟨whole, compiles, ?_⟩
  rintro ⟨rule, paths⟩ listed
  obtain ⟨f, found, named⟩ : ∃ f ∈ whole.faultsIn berths,
      (f.rule, f.place.instancePath) = (rule, paths.headD []) := by
    rw [← List.mem_map, told]
    rcases List.mem_pair.mp listed with same | same <;> cases same <;> decide
  obtain ⟨rfl, -⟩ := Prod.mk.inj named
  have common : f.place.EndsIn commonKeywords := by
    have last : f.place.schemaPath.getLast? = f.rule.1.getLast? := rfl
    rw [Place.EndsIn, last]
    rcases List.mem_pair.mp listed with same | same <;> rw [(Prod.mk.inj same).1] <;> decide
  obtain ⟨before, after, merged, -⟩ :=
    ((validateCollection_merges_rules compiles).2 berths).2 f found common
  refine ⟨f, found, rfl, common, ⟨before, after, merged⟩, ?_⟩
  calc ((whole.faultsIn berths).filter fun g => f.rule = g.rule).map (·.place.instancePath)
      = (((whole.faultsIn berths).map fun g => (g.rule, g.place.instancePath)).filter
          fun p => f.rule = p.1).map (·.2) := by
        rw [List.filter_map, List.map_map]
        rfl
    _ = paths := by
        rw [told]
        rcases List.mem_pair.mp listed with same | same <;>
          obtain ⟨rule, rfl⟩ := Prod.mk.inj same <;> rw [rule] <;> decide

end Sample

end DocumentMigration
