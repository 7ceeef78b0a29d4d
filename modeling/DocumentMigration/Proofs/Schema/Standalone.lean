import DocumentMigration.Schema.Compiled
import DocumentMigration.Schema.Collection
import Mathlib.Data.List.Forall2
import Mathlib.Data.List.Nodup

/-!
Schemas of the latest edition that stand alone: without identifiers and references they mean one
check wherever they stand, made of the checks of their parts.
-/
namespace DocumentMigration

open Json

/-- A schema document that means a check by itself. -/
structure Schema.Means [Standards] (source : Value) (check : Check) : Prop where
  linked : ∃ schema, Schema.ofValue? source = some schema ∧
    ∀ k s, s.draft = .draft2020 → Schema.link k s schema = pure check
  entries : ∀ s, s.draft = .draft2020 → Entry.ofSchema? s source = some []

/-- A keyword that has a meaning by itself, and says nothing of what surrounds it. -/
structure Keyword.Means [Standards] (keyword : String) (v : Value) (meaning : Check.Meaning) :
    Prop where
  linked : ∃ content, content.text? = none ∧
    (∀ rest keywords, Schema.ofMembers? rest = some keywords →
      Schema.ofMembers? ((keyword, v) :: rest) = some ((keyword, content) :: keywords)) ∧
    ∀ k s rule?, s.draft = .draft2020 → Schema.linkContent k s rule? content = pure meaning
  entries : ∀ s contents rest, s.draft = .draft2020 →
    Entry.ofKeywords? s contents ((keyword, v) :: rest) = Entry.ofKeywords? s contents rest

namespace Assertion

variable {names : List String}

/-- Texts that are read back one by one are read back as a list. -/
theorem mapM_map_eq_some {α β : Type} {write : α → β} {read : β → Option α}
    (back : ∀ a, read (write a) = some a) (as : List α) : (as.map write).mapM read = some as := by
  induction as with
  | nil => rfl
  | cons a as ih => simp [back, ih]

theorem strings?_ofStrings (names : List String) :
    strings? (.ofStrings names) = some names := by
  rw [Value.ofStrings, strings?]
  apply mapM_map_eq_some
  intro name
  rfl

theorem eraseDups_of_nodup {α : Type} [DecidableEq α] {as : List α} (distinct : as.Nodup) :
    as.eraseDups = as := by
  induction as with
  | nil => rfl
  | cons a as ih =>
    obtain ⟨new, distinct⟩ := List.nodup_cons.mp distinct
    have kept : as.filter (fun b => !b == a) = as := by
      apply List.filter_eq_self.mpr
      intro b member
      have other : b ≠ a := fun same => new (same ▸ member)
      simp [other]
    rw [List.eraseDups_cons, kept, ih distinct]

theorem distinctStrings?_ofStrings (distinct : names.Nodup) :
    distinctStrings? (.ofStrings names) = some names := by
  simp [distinctStrings?, strings?_ofStrings, eraseDups_of_nodup distinct]

end Assertion

namespace Schema

theorem textOf?_eq_none {keywords : List (String × Keyword)}
    (silent : ∀ m ∈ keywords, m.2.text? = none) (name : String) : textOf? keywords name = none := by
  refine Option.bind_eq_none_iff.mpr fun content found => ?_
  obtain ⟨before, after, rfl, -⟩ := List.lookup_eq_some_iff.mp found
  exact silent (name, content) (List.mem_append_right before List.mem_cons_self)

variable [Standards] {ms : List (String × Value)} {siblings : Check.Siblings} {v : Value}
  {check : Check}

theorem means_items (h : Means v check) : Keyword.Means "items" v (.one v check) := by
  obtain ⟨⟨schema, read, linked⟩, entries⟩ := h
  have kind : form "items" = .schema := rfl
  constructor
  · refine ⟨.one v schema, rfl, ?_, ?_⟩
    · intro rest keywords readRest
      simp [ofMembers?, kind, read, readRest]
    · intro k s rule? latest
      simp [linkContent, linked k s latest]
  · intro s contents rest latest
    simp [Entry.ofKeywords?, kind, latest, entries s latest]

/-- Named schemas that all stand alone. -/
abbrev NamedMeans (ms : List (String × Value)) (checks : List (String × Check)) : Prop :=
  List.Forall₂ (fun m c => m.1 = c.1 ∧ Means m.2 c.2) ms checks

theorem NamedMeans.linked {checks : List (String × Check)} (h : NamedMeans ms checks) :
    ∃ schemas, ofNamed? ms = some schemas ∧
      ∀ k s, s.draft = .draft2020 → linkMany k s schemas = pure checks := by
  induction h with
  | nil => exact ⟨[], rfl, fun _ _ _ => rfl⟩
  | @cons m c ms checks head _ ih =>
    obtain ⟨same, ⟨schema, read, linked⟩, -⟩ := head
    obtain ⟨schemas, readRest, linkedRest⟩ := ih
    refine ⟨(m.1, schema) :: schemas, ?_, ?_⟩
    · simp [ofNamed?, read, readRest]
    · intro k s latest
      simp [linkMany, linked k s latest, linkedRest k s latest, same]

theorem NamedMeans.entries {checks : List (String × Check)} (h : NamedMeans ms checks) {s : Scope}
    (latest : s.draft = .draft2020) : Entry.ofMembers? s ms = some [] := by
  induction h with
  | nil => rfl
  | cons head _ ih => simp [Entry.ofMembers?, head.2.entries s latest, ih]

theorem means_properties {checks : List (String × Check)} (h : NamedMeans ms checks) :
    Keyword.Means "properties" (.object ms) (.many checks) := by
  have kind : form "properties" = .namedSchemas := rfl
  constructor
  · obtain ⟨schemas, read, linked⟩ := h.linked
    refine ⟨.many schemas, rfl, ?_, ?_⟩
    · intro rest keywords readRest
      simp [ofMembers?, kind, read, readRest]
    · intro k s rule? latest
      simp [linkContent, linked k s latest]
  · intro s contents rest latest
    simp [Entry.ofKeywords?, kind, latest, h.entries latest]

theorem means_assertion {keyword : String} {a : Assertion} (kind : form keyword = .assertion)
    (read : Assertion.ofKeyword? keyword v = some a)
    (own : ∀ s contents text, s.draft = .draft2020 →
      Entry.ofText? s contents keyword text = some []) :
    Keyword.Means keyword v (.assertion a) := by
  constructor
  · refine ⟨.assertion a, rfl, ?_, ?_⟩
    · intro rest keywords readRest
      rw [ofMembers?.eq_def]
      simp only [kind]
      simp [read, readRest]
    · intro k s rule? latest
      simp [linkContent, latest]
  · intro s contents rest latest
    rw [Entry.ofKeywords?.eq_def]
    simp only [kind]
    cases v <;> simp [latest, own s contents _ latest]

/-- The keywords that come to bear wherever they stand and say nothing of their surroundings. -/
def isPlain (keyword : String) : Bool :=
  ["items", "properties", "required", "type"].contains keyword

/-- Keywords with their meanings. -/
abbrev KeywordsMean (ms : List (String × Value)) (siblings : Check.Siblings) : Prop :=
  List.Forall₂ (fun m s => isPlain m.1 ∧ m.1 = s.1 ∧ Keyword.Means m.1 m.2 s.2) ms siblings

theorem KeywordsMean.linked (h : KeywordsMean ms siblings) :
    ∃ keywords, ofMembers? ms = some keywords ∧
      (∀ m ∈ keywords, isPlain m.1 ∧ m.2.text? = none) ∧
      ∀ k s reaches rule?, s.draft = .draft2020 →
        (∀ keyword, isPlain keyword → reaches keyword) →
        linkKeywords k s reaches rule? keywords = pure siblings := by
  induction h with
  | nil => exact ⟨[], rfl, nofun, fun _ _ _ _ _ _ => rfl⟩
  | @cons m sibling ms siblings head _ ih =>
    obtain ⟨keyword, v⟩ := m
    obtain ⟨plain, rfl, ⟨content, silent, read, linked⟩, -⟩ := head
    obtain ⟨keywords, readRest, silentRest, linkedRest⟩ := ih
    refine ⟨(_, content) :: keywords, read _ _ readRest, ?_, ?_⟩
    · exact List.forall_mem_cons.mpr ⟨⟨plain, silent⟩, silentRest⟩
    · intro k s reaches rule? latest reached
      have here := reached _ plain
      simp [linkKeywords, here, linked k s _ latest, linkedRest k s reaches rule? latest reached]

theorem KeywordsMean.entries (h : KeywordsMean ms siblings) {s : Scope}
    (latest : s.draft = .draft2020) (contents : Value) :
    Entry.ofKeywords? s contents ms = some [] := by
  induction h with
  | nil => rfl
  | cons head _ ih => rw [head.2.2.entries _ _ _ latest, ih]

/-- Other keywords are not there. -/
theorem KeywordsMean.get?_eq_none (h : KeywordsMean ms siblings) {name : String}
    (other : isPlain name = false) : Object.get? name ms = none := by
  induction h with
  | nil => rfl
  | @cons m sibling ms siblings head _ ih =>
    have differs : m.1 ≠ name := fun same => absurd head.1 (by simp [same, other])
    rw [Object.get?, if_neg differs, ih]

theorem means_object (h : KeywordsMean ms siblings) :
    Means (.object ms) (.object .draft2020 siblings) := by
  constructor
  · obtain ⟨keywords, read, silent, linked⟩ := h.linked
    refine ⟨.object keywords, ?_, ?_⟩
    · simp [ofValue?, read]
    · intro k s latest
      have unsaid := textOf?_eq_none fun m member => (silent m member).2
      have surroundings : s.inside? (textOf? keywords) = some s :=
        Scope.inside?_eq_self latest (unsaid _) (by rw [unsaid]; rfl)
      have reached (keyword : String) (plain : isPlain keyword) :
          s.draft.reaches (keywords.map (·.1)) keyword := by
        rw [latest]
        simp only [isPlain, List.contains_iff_mem, List.mem_cons, List.not_mem_nil, or_false]
          at plain
        rcases plain with rfl | rfl | rfl | rfl <;> rfl
      have here : (liftM (some s) : Linking Scope) = pure s := rfl
      have keywordsLinked := linked k s _ (textRule? s.draft (textOf? keywords)) latest reached
      simp only [link, surroundings, here, pure_bind, keywordsLinked]
      rw [latest]
  · intro s latest
    have unsaid (name : String) (other : isPlain name = false) :
        Scope.textOf? name (.object ms) = none := by
      simp [Scope.textOf?, h.get?_eq_none other]
    have surroundings : s.inside? (Scope.textOf? · (.object ms)) = some s :=
      Scope.inside?_eq_self latest (unsaid _ rfl) (by simp [unsaid "$schema" rfl])
    simp [Entry.ofSchema?, surroundings, h.entries latest]

end Schema

namespace CompiledSchema

variable [Standards] {root : Value} {check : Check}

theorem check?_of_means (h : Schema.Means root check) (resources : Resources)
    (follow : Target → Check) :
    check? ⟨root, resources⟩ follow (target ⟨root, resources⟩) = some check := by
  obtain ⟨⟨schema, read, linked⟩, -⟩ := h
  have here : (liftM (some schema) : Linking Schema) = pure schema := rfl
  rw [check?, target, Target.link]
  simp only [read, here, pure_bind]
  rw [linked]
  · rfl
  · rfl

/-- A schema that stands alone can be checked against. -/
theorem ofValue?_of_means (h : Schema.Means root check) :
    ofValue? root = some ⟨root, .ofRoot root Standards.entries⟩ := by
  have resources : Resources.ofValue? root = some (.ofRoot root Standards.entries) := by
    simp [Resources.ofValue?, h.entries .outermost rfl]
  obtain ⟨schema, read, -⟩ := h.linked
  simp [ofValue?, read, resources, check?_of_means h]

/-- The faults under a schema that stands alone are those of its check. -/
theorem faults_of_means (h : Schema.Means root check) (resources : Resources) (v : Value) :
    faults ⟨root, resources⟩ v = check {} v := by
  have fuel : (v.depth + 2) * (places root + 1) =
      (v.depth + 1) * (places root + 1) + places root + 1 := by
    rw [Nat.succ_mul]
    rfl
  rw [faults, fuel, follow, check?_of_means h, Option.getD_some]

end CompiledSchema

end DocumentMigration
