import DocumentMigration.Proofs.Schema.Shape
import DocumentMigration.Proofs.Schema.Standalone

/-!
The schema that documents suggest accepts the documents: what a shape says of the values that it
has observed makes a schema that stands alone, and none of the values breaks it.
-/
namespace DocumentMigration

open Json

namespace Shape

section Keywords

variable {types : List TypeName}

theorem ofName?_name (t : TypeName) : TypeName.ofName? t.name = some t := by
  cases t <;> decide

theorem name_injective : Function.Injective TypeName.name := by
  intro t u same
  have read := congrArg TypeName.ofName? same
  rwa [ofName?_name, ofName?_name, Option.some.injEq] at read

theorem typeNames?_typeValue {v : Value} (distinct : types.Nodup)
    (told : typeValue types = some v) : Assertion.typeNames? v = some types := by
  rcases types with _ | ⟨t, _ | ⟨u, types⟩⟩
  · cases told
  · cases told
    simp [Assertion.typeNames?, ofName?_name]
  · cases told
    have names := Assertion.distinctStrings?_ofStrings (distinct.map name_injective)
    have types := Assertion.mapM_map_eq_some ofName?_name (t :: u :: types)
    show (Assertion.distinctStrings? (.ofStrings ((t :: u :: _).map TypeName.name)) >>= _) = _
    rw [names]
    exact types

end Keywords

theorem nodup_requiredKeys {members : List (String × Nat × Shape)} {objects : Nat}
    (sorted : (members.map (·.1)).Pairwise (· < ·)) :
    (requiredKeys objects members).Nodup :=
  List.Nodup.sublist (List.filter_sublist.map _) (sorted.imp ne_of_lt)

section Accepts

variable [Standards] {vs : List Value} {types : List TypeName}
  {members : List (String × Nat × Shape)} {objects : Nat} {items : Option Shape}

/-- A schema that stands alone and finds no fault with some values. -/
def Accepts (source : Value) (vs : List Value) : Prop :=
  ∃ check, Schema.Means source check ∧ ∀ v ∈ vs, ∀ place, check place v = []

/-- A keyword that finds no fault with some values, if it is there at all. -/
def KeywordAccepts (keyword : String) (source : Option Value) (vs : List Value) : Prop :=
  ∀ v, source = some v → ∃ meaning, Keyword.Means keyword v meaning ∧
    ∀ x ∈ vs, ∀ siblings place, Check.keyword .draft2020 siblings keyword meaning place x = []

theorem accepts_ofOptions {options : List (String × Option Value)}
    (sorted : (options.map (·.1)).Pairwise (· < ·))
    (each : ∀ o ∈ options, Schema.isPlain o.1 ∧ KeywordAccepts o.1 o.2 vs) :
    Accepts (.object (Object.ofOptions options)) vs := by
  have keywords : ∃ siblings,
      Schema.KeywordsMean (options.filterMap fun o => o.2.map (o.1, ·)) siblings ∧
        ∀ s ∈ siblings, ∀ x ∈ vs, ∀ all place,
          Check.keyword .draft2020 all s.1 s.2 place x = [] := by
    clear sorted
    induction options with
    | nil => exact ⟨[], .nil, by simp⟩
    | cons o options ih =>
      obtain ⟨keyword, source⟩ := o
      obtain ⟨⟨plain, accepted⟩, each⟩ := List.forall_mem_cons.mp each
      obtain ⟨siblings, means, passed⟩ := ih each
      cases source with
      | none => exact ⟨siblings, means, passed⟩
      | some v =>
        obtain ⟨meaning, told, passes⟩ := accepted v rfl
        refine ⟨(keyword, meaning) :: siblings, .cons ⟨plain, rfl, told⟩ means, ?_⟩
        exact List.forall_mem_cons.mpr ⟨passes, passed⟩
  obtain ⟨siblings, means, passed⟩ := keywords
  rw [Object.ofOptions_of_sorted sorted]
  refine ⟨_, Schema.means_object means, ?_⟩
  intro v member place
  apply List.flatMap_eq_nil_iff.mpr
  intro s sibling
  exact passed s sibling v member siblings place

theorem accepts_items {source : Value} (h : Accepts source (elements vs)) :
    KeywordAccepts "items" (some source) vs := by
  obtain ⟨check, means, passed⟩ := h
  intro v told
  cases told
  -- Whatever number of items a keyword beside this one takes, the rest of them pass.
  refine ⟨.one source check, Schema.means_items means, ?_⟩
  intro x member siblings place
  show Check.items siblings.prefixCount check (place.keyword "items") x = []
  cases x with
  | array xs =>
    apply List.flatMap_eq_nil_iff.mpr
    rintro ⟨e, i⟩ item
    have inside : e ∈ xs := List.fst_mem_of_mem_zipIdx (List.mem_of_mem_drop item)
    exact passed e (mem_elements member inside) _
  | _ => rfl

theorem accepts_properties
    (h : ∀ m ∈ members, Accepts m.2.2.toSchema (valuesAt vs m.1)) :
    KeywordAccepts "properties" (some (.object (memberSchemas members))) vs := by
  have named : ∃ checks, Schema.NamedMeans (memberSchemas members) checks ∧
      ∀ c ∈ checks, ∀ x ∈ valuesAt vs c.1, ∀ place, c.2 place x = [] := by
    induction members with
    | nil => exact ⟨[], .nil, by simp⟩
    | cons m members ih =>
      obtain ⟨key, n, s⟩ := m
      obtain ⟨⟨check, means, passed⟩, rest⟩ := List.forall_mem_cons.mp h
      obtain ⟨checks, meansRest, passedRest⟩ := ih rest
      refine ⟨(key, check) :: checks, .cons ⟨rfl, means⟩ meansRest, ?_⟩
      exact List.forall_mem_cons.mpr ⟨passed, passedRest⟩
  obtain ⟨checks, means, passed⟩ := named
  intro v told
  cases told
  refine ⟨.many checks, Schema.means_properties means, ?_⟩
  intro x member siblings place
  have clear : Check.properties checks (place.keyword "properties") x = [] := by
    cases x with
    | object ms =>
      apply List.flatMap_eq_nil_iff.mpr
      rintro ⟨name, check⟩ known
      dsimp only
      rcases found : Object.get? name ms with _ | y
      · rfl
      · exact passed _ known y (mem_valuesAt member found) _
    | _ => rfl
  simp [Check.keyword, clear]

theorem accepts_required {names : List String} (distinct : names.Nodup)
    (all : ∀ name ∈ names, (valuesAt vs name).length = (objectsOf vs).length) :
    KeywordAccepts "required" (some (.ofStrings names)) vs := by
  intro v told
  cases told
  refine ⟨.assertion (.required names), ?_, ?_⟩
  · apply Schema.means_assertion rfl
    · simp [Assertion.ofKeyword?, Assertion.distinctStrings?_ofStrings distinct]
    · intro s contents text latest
      simp [Entry.ofText?, latest]
  · intro x member siblings place
    have holds : (Assertion.required names).holds x = true := by
      cases x with
      | object ms =>
        apply List.isEmpty_iff.mpr
        apply List.filter_eq_nil_iff.mpr
        intro name listed
        have everywhere := List.filterMap_length_eq_length.mp (all name listed)
        have here := everywhere ms (List.mem_filterMap.mpr ⟨_, member, rfl⟩)
        simpa [Object.contains, Option.isSome_iff_ne_none] using here
      | _ => rfl
    simp [Check.keyword, Check.assertion, holds]

theorem accepts_type (types_eq : types = kinds vs) :
    KeywordAccepts "type" (typeValue types) vs := by
  intro v told
  have distinct : types.Nodup := types_eq ▸ nodup_kinds vs
  refine ⟨.assertion (.type types), ?_, ?_⟩
  · apply Schema.means_assertion rfl
    · simp [Assertion.ofKeyword?, typeNames?_typeValue distinct told]
    · intro s contents text latest
      simp [Entry.ofText?, latest]
  · intro x member siblings place
    obtain ⟨t, listed, admits⟩ := (covers_kinds member).admits
    have holds : (Assertion.type types).holds x = true :=
      List.any_eq_true.mpr ⟨t, types_eq ▸ listed, admits⟩
    simp [Check.keyword, Check.assertion, holds]

/-- The schema of a shape accepts the values that the shape describes. -/
theorem Describes.accepts {s : Shape} (h : Describes s vs) : Accepts s.toSchema vs := by
  induction h with
  | @seen types members objects items vs types_eq objects_eq sorted _ present _ _ _ _ member
      item =>
    rw [toSchema]
    apply accepts_ofOptions
    · show ["items", "properties", "required", "type"].Pairwise (· < ·)
      decide +kernel
    · have inside : ∀ m ∈ members, Accepts m.2.2.toSchema (valuesAt vs m.1) := by
        rintro ⟨k, n, s⟩ listed
        exact member k n s (lookup_of_mem sorted listed)
      simp only [List.forall_mem_cons, List.not_mem_nil, false_implies, implies_true, and_true]
      refine ⟨⟨rfl, ?_⟩, ⟨rfl, ?_⟩, ⟨rfl, ?_⟩, ⟨rfl, ?_⟩⟩
      · rcases items with _ | s
        · nofun
        · exact accepts_items (item s rfl)
      · split
        · exact accepts_properties inside
        · nofun
      · split
        · -- A member that is counted as often as there are objects is in each of them.
          apply accepts_required (nodup_requiredKeys sorted)
          intro name listed
          obtain ⟨m, known, rfl⟩ := List.mem_map.mp listed
          obtain ⟨known, always⟩ := List.mem_filter.mp known
          have counted := (present m.1 m.2.1 m.2.2 (lookup_of_mem sorted known)).2
          rw [← counted, of_decide_eq_true always, objects_eq]
        · nofun
      · exact accepts_type types_eq

/-- A schema for some values makes one for their array. -/
theorem accepts_collectionSchema {item : Value} (h : Accepts item vs) :
    Accepts (collectionSchema item) [.array vs] := by
  have options : collectionSchema item = .object (Object.ofOptions
      [("items", some item), ("type", typeValue [.array])]) := by
    rw [Object.ofOptions_of_sorted]
    · rfl
    · show ["items", "type"].Pairwise (· < ·)
      decide +kernel
  rw [options]
  apply accepts_ofOptions
  · show ["items", "type"].Pairwise (· < ·)
    decide +kernel
  · simp only [List.forall_mem_cons, List.not_mem_nil, false_implies, implies_true, and_true]
    refine ⟨⟨rfl, accepts_items ?_⟩, ⟨rfl, accepts_type rfl⟩⟩
    simpa [elements, itemsOf] using h

end Accepts

end Shape

/-- No fault is found with documents by the schema of their shape. -/
theorem validateCollection_toSchema [Standards] {documents : List Snapshot}
    (distinct : ∀ d ∈ documents, (Value.object d.data).DistinctKeys) :
    validateCollection (Shape.ofDocuments documents).toSchema documents = .ok [] := by
  have accepted := (Shape.describes_ofDocuments distinct).accepts
  obtain ⟨check, means, passed⟩ := Shape.accepts_collectionSchema accepted
  have clear := passed _ List.mem_cons_self {}
  simp only [validateCollection, CompiledSchema.ofValue?_of_means means,
    CompiledSchema.faults_of_means means, clear]
  rfl

/-- The schema that documents suggest can be inferred, and accepts the documents. -/
theorem inferItemSchema_accepts [Standards] (collection : String) {documents : List Snapshot}
    (present : documents ≠ []) (distinct : ∀ d ∈ documents, (Value.object d.data).DistinctKeys) :
    ∃ schema, inferItemSchema collection documents = .ok schema ∧
      validateCollection schema documents = .ok [] :=
  ⟨_, if_neg (by simpa using present), validateCollection_toSchema distinct⟩

namespace Sample

attribute [local instance] Standards.bare

/-- The first visitor has a whole age and tags of several types, the age of the second is a
float. -/
def visitors : List Snapshot :=
  [⟨"g1", [("age", .number (.ofNat 41)), ("tags", .array [.string "a", .null, .object []])]⟩,
    ⟨"g2", [("age", .number (.float .zero))]⟩]

theorem inferItemSchema_accepts_visitors :
    visitors ≠ [] ∧ (∀ d ∈ visitors, (Value.object d.data).DistinctKeys) ∧
    ∃ schema, inferItemSchema "visitors" visitors = .ok schema ∧
      validateCollection schema visitors = .ok [] := by
  have distinct : ∀ d ∈ visitors, (Value.object d.data).DistinctKeys := by
    simp [visitors, Value.DistinctKeys, Value.MembersDistinctKeys, Value.ItemsDistinctKeys,
      Object.keys]
  exact ⟨List.cons_ne_nil _ _, distinct,
    inferItemSchema_accepts "visitors" (List.cons_ne_nil _ _) distinct⟩

example : Pointer.lookup? ["properties", "age", "type"] (Shape.ofDocuments visitors).toSchema =
    some (.string "number") := rfl

end Sample

end DocumentMigration
