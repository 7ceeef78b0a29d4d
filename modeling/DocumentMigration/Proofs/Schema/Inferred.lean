import DocumentMigration.Proofs.Change.Canonical
import DocumentMigration.Proofs.Json.Depth
import DocumentMigration.Proofs.Json.Reread
import DocumentMigration.Proofs.Schema.Shape

/-!
The schema of a shape as a text: its members stand in their order, and for each level of the values
that the shape describes it has two, one for the keyword and one for the schema in it.
-/
namespace DocumentMigration

open Json

namespace Json

theorem Object.mem_ofOptions {options : List (String × Option Value)} {m : String × Value}
    (member : m ∈ Object.ofOptions options) : (m.1, some m.2) ∈ options := by
  obtain ⟨⟨key, v⟩, listed, named⟩ := List.mem_filterMap.mp (Object.mem_ofList member)
  obtain ⟨v, rfl, rfl⟩ := Option.map_eq_some_iff.mp named
  exact listed

namespace Value

theorem canonical_ofOptions {options : List (String × Option Value)}
    (each : ∀ o ∈ options, ∀ v, o.2 = some v → v.Canonical) :
    (object (Object.ofOptions options)).Canonical := by
  refine ⟨Object.sorted_ofList _, canonicalMembers_iff.mpr fun m member => ?_⟩
  exact each _ (Object.mem_ofOptions member) m.2 rfl

theorem depth_ofOptions_le {options : List (String × Option Value)} {depth : Nat}
    (each : ∀ o ∈ options, ∀ v, o.2 = some v → v.depth ≤ depth) :
    (object (Object.ofOptions options)).depth ≤ depth + 1 := by
  refine Nat.succ_le_succ (membersDepth_le_iff.mpr fun m member => ?_)
  exact each _ (Object.mem_ofOptions member) m.2 rfl

theorem canonical_ofStrings (names : List String) : (ofStrings names).Canonical := by
  refine canonicalItems_iff.mpr fun v member => ?_
  obtain ⟨name, -, rfl⟩ := List.mem_map.mp member
  trivial

theorem steady_ofOptions [FloatReader] {options : List (String × Option Value)}
    (each : ∀ o ∈ options, ∀ v, o.2 = some v → v.Steady) :
    (object (Object.ofOptions options)).Steady :=
  steady_object_iff.mpr fun m member => each _ (Object.mem_ofOptions member) m.2 rfl

theorem depth_ofStrings_le (names : List String) : (ofStrings names).depth ≤ 1 := by
  refine Nat.succ_le_succ (itemsDepth_le_iff.mpr fun v member => ?_)
  obtain ⟨name, -, rfl⟩ := List.mem_map.mp member
  exact le_rfl

end Value

end Json

namespace Shape

variable {vs : List Value} {types : List TypeName}

theorem memberSchemas_eq_map (members : List (String × Nat × Shape)) :
    memberSchemas members = members.map fun m => (m.1, m.2.2.toSchema) := by
  induction members with
  | nil => rfl
  | cons m members ih =>
    rw [memberSchemas, ih]
    rfl

theorem canonical_typeValue {v : Value} (told : typeValue types = some v) : v.Canonical := by
  rcases types with _ | ⟨t, _ | ⟨u, types⟩⟩ <;> cases told
  · trivial
  · exact Value.canonical_ofStrings _

theorem steady_typeValue [FloatReader] {v : Value} (told : typeValue types = some v) :
    v.Steady := by
  rcases types with _ | ⟨t, _ | ⟨u, types⟩⟩ <;> cases told
  · rfl
  · exact Value.steady_ofStrings _

theorem depth_typeValue_le {v : Value} (told : typeValue types = some v) : v.depth ≤ 1 := by
  rcases types with _ | ⟨t, _ | ⟨u, types⟩⟩ <;> cases told
  · exact Nat.zero_le 1
  · exact Value.depth_ofStrings_le _

variable {depth : Nat}

theorem depth_lt_of_mem_valuesAt {key : String} {x : Value} (within : ∀ v ∈ vs, v.depth ≤ depth)
    (member : x ∈ valuesAt vs key) : x.depth < depth := by
  obtain ⟨ms, object, found⟩ := List.mem_filterMap.mp member
  obtain ⟨v, listed, here⟩ := List.mem_filterMap.mp object
  cases v <;> cases here
  exact lt_of_lt_of_le (Value.depth_lt_object (Object.mem_of_get? found)) (within _ listed)

theorem depth_lt_of_mem_elements {x : Value} (within : ∀ v ∈ vs, v.depth ≤ depth)
    (member : x ∈ elements vs) : x.depth < depth := by
  obtain ⟨v, listed, inside⟩ := List.mem_flatMap.mp member
  cases v with
  | array xs => exact lt_of_lt_of_le (Value.depth_lt_array inside) (within _ listed)
  | _ => cases inside

/-- Values inside others are less deep, and so is the schema that is made for them. -/
theorem depth_le_of_inside {source : Value} {inside : List Value}
    (bound : ∀ {depth : Nat}, (∀ v ∈ inside, v.depth ≤ depth) → source.depth ≤ 2 * depth + 2)
    (present : inside ≠ []) (less : ∀ v ∈ inside, v.depth < depth) :
    source.depth ≤ 2 * depth := by
  obtain ⟨x, member⟩ := List.exists_mem_of_ne_nil inside present
  have first := less x member
  have lower := bound fun v member => Nat.le_sub_one_of_lt (less v member)
  omega

/-- The members of a schema that documents suggest stand in the order of their keys. -/
theorem Describes.canonical {s : Shape} (h : Describes s vs) : s.toSchema.Canonical := by
  induction h with
  | @seen types members objects items vs _ _ sorted _ _ _ _ _ _ member item =>
    rw [toSchema]
    apply Value.canonical_ofOptions
    simp only [List.forall_mem_cons, List.not_mem_nil, false_implies, implies_true, and_true]
    refine ⟨?_, ?_, ?_, fun v => canonical_typeValue⟩
    · intro v told
      rcases items with _ | s <;> cases told
      exact item s rfl
    · intro v told
      split at told <;> cases told
      rw [memberSchemas_eq_map]
      refine ⟨?_, Value.canonicalMembers_iff.mpr fun m listed => ?_⟩
      · simpa [Object.Sorted, Object.keys, Function.comp_def] using sorted
      · obtain ⟨known, inside, rfl⟩ := List.mem_map.mp listed
        exact member known.1 known.2.1 known.2.2 (lookup_of_mem sorted inside)
    · intro v told
      split at told <;> cases told
      exact Value.canonical_ofStrings _

/-- There are no floats in such a schema. -/
theorem Describes.steady [FloatReader] {s : Shape} (h : Describes s vs) : s.toSchema.Steady := by
  induction h with
  | @seen types members objects items vs _ _ sorted _ _ _ _ _ _ member item =>
    rw [toSchema]
    apply Value.steady_ofOptions
    simp only [List.forall_mem_cons, List.not_mem_nil, false_implies, implies_true, and_true]
    refine ⟨?_, ?_, ?_, fun v => steady_typeValue⟩
    · intro v told
      rcases items with _ | s <;> cases told
      exact item s rfl
    · intro v told
      split at told <;> cases told
      rw [memberSchemas_eq_map, Value.steady_object_iff]
      intro m listed
      obtain ⟨known, inside, rfl⟩ := List.mem_map.mp listed
      exact member known.1 known.2.1 known.2.2 (lookup_of_mem sorted inside)
    · intro v told
      split at told <;> cases told
      exact Value.steady_ofStrings _

/-- The schema of values that are nested so deep is nested about twice as deep. -/
theorem Describes.depth_le {s : Shape} (h : Describes s vs) (within : ∀ v ∈ vs, v.depth ≤ depth) :
    s.toSchema.depth ≤ 2 * depth + 2 := by
  induction h generalizing depth with
  | @seen types members objects items vs _ _ sorted _ present _ _ itemed _ member item =>
    rw [toSchema]
    apply Value.depth_ofOptions_le
    simp only [List.forall_mem_cons, List.not_mem_nil, false_implies, implies_true, and_true]
    refine ⟨?_, ?_, ?_, ?_⟩
    · intro v told
      rcases items with _ | s <;> cases told
      have less := depth_le_of_inside (item s rfl) (itemed s rfl)
        fun v inside => depth_lt_of_mem_elements within inside
      omega
    · intro v told
      split at told <;> cases told
      rw [memberSchemas_eq_map, Value.depth]
      refine Nat.succ_le_succ (Value.membersDepth_le_iff.mpr fun m listed => ?_)
      obtain ⟨⟨key, n, s⟩, known, rfl⟩ := List.mem_map.mp listed
      have found := lookup_of_mem sorted known
      exact depth_le_of_inside (member key n s found) (present key n s found).1
        fun v inside => depth_lt_of_mem_valuesAt within inside
    · intro v told
      split at told <;> cases told
      exact (Value.depth_ofStrings_le _).trans (by omega)
    · intro v told
      exact (depth_typeValue_le told).trans (by omega)

end Shape

end DocumentMigration
