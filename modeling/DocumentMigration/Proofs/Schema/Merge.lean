import DocumentMigration.Proofs.Grouping
import DocumentMigration.Proofs.Json.Reordered

/-!
Merging groups violations by their rules. The records follow each other as the first violations of
their rules do, and tell all that was merged: a record expands to the violations of its rule.
-/
namespace DocumentMigration

/-- Two violations of one rule, whatever the places and the order of keys in the parameters. -/
structure Violation.SameRule (v w : Violation) : Prop where
  keyword : v.keyword = w.keyword
  message : v.message = w.message
  schemaPath : v.schemaPath = w.schemaPath
  params : v.params.Reordered w.params

/-- The same violation up to the order of keys in its parameters. -/
structure Violation.Reordered (v w : Violation) : Prop extends v.SameRule w where
  instancePath : v.instancePath = w.instancePath

namespace MergedViolation

/-- The record of some violations of one rule: the first one, with all the places. -/
def ofMembers (first : Violation) (members : List Violation) : MergedViolation :=
  let paths := members.map (·.instancePath)
  ⟨{ first with instancePath := String.intercalate "," paths }, paths⟩

/-- The violation of a record, once at each place that it lists. -/
def expand (m : MergedViolation) : List Violation :=
  m.instancePaths.map fun path => { m.violation with instancePath := path }

theorem add_eq_place (v : Violation) (ms : List MergedViolation) :
    add v ms = place sameRule extend ofViolation v ms := by
  induction ms with
  | nil => rfl
  | cons m ms ih => rw [add, place, ih]

/-- The place of the first violation is told with all others. -/
theorem ofMembers_at (first : Violation) (members : List Violation) (path : String) :
    ofMembers { first with instancePath := path } members = ofMembers first members := rfl

theorem ofViolation_eq (v : Violation) : ofViolation v = ofMembers v [v] := by
  simp [ofViolation, ofMembers]

theorem extend_ofMembers (first : Violation) (members : List Violation) (v : Violation) :
    (ofMembers first members).extend v = ofMembers first (members ++ [v]) := by
  simp [extend, ofMembers]

theorem expand_ofMembers (first : Violation) (members : List Violation) :
    (ofMembers first members).expand =
      members.map fun v => { first with instancePath := v.instancePath } := by
  simp [expand, ofMembers]

end MergedViolation

namespace Violation

variable {v w : Violation}

/-- What a rule is told by. -/
def rule (v : Violation) : String × String × String × String :=
  (v.keyword, v.message, v.schemaPath, v.params.sorted.compact)

theorem sameRule_eq_decide (m : MergedViolation) (v : Violation) :
    m.sameRule v = decide (m.violation.rule = v.rule) := by
  rw [Bool.eq_iff_iff]
  simp [MergedViolation.sameRule, rule, and_assoc]

theorem sameRule_ofMembers (first : Violation) (members : List Violation) (v : Violation) :
    (MergedViolation.ofMembers first members).sameRule v = decide (first.rule = v.rule) :=
  sameRule_eq_decide (.ofMembers first members) v

theorem rule_eq_iff (left : v.params.DistinctKeys) (right : w.params.DistinctKeys) :
    v.rule = w.rule ↔ v.SameRule w := by
  rw [rule, rule, Prod.mk.injEq, Prod.mk.injEq, Prod.mk.injEq,
    Json.Value.compact_sorted_eq_iff left right]
  constructor <;> rintro ⟨keyword, message, schemaPath, params⟩ <;>
    exact ⟨keyword, message, schemaPath, params⟩

end Violation

theorem mergeViolations_eq_foldl (vs : List Violation) :
    mergeViolations vs = vs.foldl (fun merged v =>
      place MergedViolation.sameRule MergedViolation.extend MergedViolation.ofViolation v merged)
        [] := by
  simp only [mergeViolations, MergedViolation.add_eq_place]

theorem groups_mergeViolations {vs : List Violation}
    (distinct : ∀ v ∈ vs, v.params.DistinctKeys) :
    Groups Violation.SameRule MergedViolation.ofMembers vs (mergeViolations vs) := by
  have grouped := groups_foldl_place Violation.sameRule_ofMembers MergedViolation.extend_ofMembers
    MergedViolation.ofViolation_eq vs
  rw [mergeViolations_eq_foldl]
  apply grouped.congr
  intro v first w second
  exact Violation.rule_eq_iff (distinct v first) (distinct w second)

section Items

variable {ι : Type} (item : ι → Violation) {is : List ι} {i : ι}

theorem mergeViolations_map (is : List ι) :
    mergeViolations (is.map item) = (firsts (fun i => (item i).rule) is).map fun h =>
      .ofMembers (item h) ((is.filter fun i => (item h).rule = (item i).rule).map item) := by
  rw [mergeViolations_eq_foldl, List.foldl_map]
  exact foldl_place Violation.sameRule_ofMembers MergedViolation.extend_ofMembers
    MergedViolation.ofViolation_eq item is

/-- All violations of one rule are in one record, and the other records are of other rules. -/
theorem mergeViolations_of_mem (member : i ∈ is) : ∃ h ∈ is, (item h).rule = (item i).rule ∧
    ∃ before after, mergeViolations (is.map item) =
      before ++ .ofMembers (item h)
        ((is.filter fun j => (item i).rule = (item j).rule).map item) :: after ∧
      ∀ m ∈ before ++ after, ∃ j ∈ is, (item j).rule ≠ (item i).rule ∧
        ∃ members, m = .ofMembers (item j) members := by
  obtain ⟨h, before, after, split, listed, same, others⟩ :=
    exists_firsts_eq_append (fun i => (item i).rule) member
  let record (h : ι) : MergedViolation :=
    .ofMembers (item h) ((is.filter fun j => (item h).rule = (item j).rule).map item)
  refine ⟨h, listed, same, before.map record, after.map record, ?_, ?_⟩
  · rw [mergeViolations_map, split, List.map_append, List.map_cons, ← same]
  · rw [← List.map_append]
    intro m another
    obtain ⟨j, other, rfl⟩ := List.mem_map.mp another
    obtain ⟨listed, apart⟩ := others j other
    exact ⟨j, listed, apart, _, rfl⟩

end Items

/-- Records of rules expand to the violations that they were made of. -/
theorem expand_of_groups {vs : List Violation} {merged : List MergedViolation}
    (groups : Groups Violation.SameRule MergedViolation.ofMembers vs merged) :
    ∃ ws, ws.Perm vs ∧ List.Forall₂ Violation.Reordered (merged.flatMap (·.expand)) ws := by
  obtain ⟨count, p, rfl⟩ := groups
  refine ⟨_, p.perm_members, ?_⟩
  simp only [List.flatMap_map, MergedViolation.expand_ofMembers]
  refine List.rel_flatMap (List.forall₂_same.mpr fun g _ => rfl) ?_
  rintro g - rfl
  refine List.forall₂_map_left_iff.mpr (List.forall₂_same.mpr fun v member => ?_)
  obtain ⟨keyword, message, schemaPath, params⟩ := Grouping.mem_members member
  exact { keyword, message, schemaPath, params, instancePath := rfl }

/-- Merging groups the violations by rule, and the records expand to the violations again. -/
theorem mergeViolations_lossless (vs : List Violation)
    (distinct : ∀ v ∈ vs, v.params.DistinctKeys) :
    Groups Violation.SameRule MergedViolation.ofMembers vs (mergeViolations vs) ∧
      ∃ ws, ws.Perm vs ∧
        List.Forall₂ Violation.Reordered ((mergeViolations vs).flatMap (·.expand)) ws :=
  ⟨groups_mergeViolations distinct, expand_of_groups (groups_mergeViolations distinct)⟩

namespace Sample

/-- Three texts of a wrong length; the last one tells the parameters of the first the other way
round. -/
def lengthReports : List Violation :=
  let report (path : String) (params : Json.Object) : Violation :=
    ⟨"length", path, "#/items/length", .object params, "wrong length"⟩
  [report "/0" [("least", .number (.ofNat 1)), ("most", .array [.number (.ofNat 9)])],
    report "/1" [("least", .string "1"), ("most", .array [.number (.ofNat 9)])],
    report "/2" [("most", .array [.number (.ofNat 9)]), ("least", .number (.ofNat 1))]]

theorem mergeViolations_of_lengthReports :
    (mergeViolations lengthReports).map (·.instancePaths) = [["/0", "/2"], ["/1"]] ∧
    Groups Violation.SameRule MergedViolation.ofMembers lengthReports
        (mergeViolations lengthReports) ∧
      ∃ ws, ws.Perm lengthReports ∧
        List.Forall₂ Violation.Reordered ((mergeViolations lengthReports).flatMap (·.expand))
          ws := by
  refine ⟨by decide +kernel, mergeViolations_lossless lengthReports ?_⟩
  simp [lengthReports, Json.Value.DistinctKeys, Json.Value.MembersDistinctKeys,
    Json.Value.ItemsDistinctKeys, Json.Object.keys]

end Sample

end DocumentMigration
