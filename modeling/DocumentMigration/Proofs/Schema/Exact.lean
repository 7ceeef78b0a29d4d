import DocumentMigration.Proofs.Grouping
import DocumentMigration.Proofs.Json.Pointer
import DocumentMigration.Proofs.Schema.Infer
import DocumentMigration.Proofs.Schema.Inferred

/-!
The schema that documents suggest says at every location just what was observed there: the types as
they came up, the keys of the objects, the keys that no object lacks, and whether an array had an
item. A location at which nothing was observed has no schema.
-/
namespace DocumentMigration

open Json

namespace Shape

section Locations

/-- A step from a value into it. -/
inductive Step where
  | member (key : String)
  | item

/-- The values behind a step, of all values that it can be taken from. -/
def Step.inside : Step → List Value → List Value
  | .member key, vs => valuesAt vs key
  | .item, vs => elements vs

/-- Where a schema has the schema for the values behind a step. -/
def Step.path : Step → List String
  | .member key => ["properties", key]
  | .item => ["items"]

/-- The values that are observed at a location. -/
def observed : List Step → List Value → List Value
  | [], vs => vs
  | step :: location, vs => observed location (step.inside vs)

theorem observed_nil (location : List Step) : observed location [] = [] := by
  induction location with
  | nil => rfl
  | cons step location ih => cases step <;> exact ih

/-- What a schema says of a location. -/
def schemaAt? (location : List Step) (schema : Value) : Option Value :=
  Pointer.lookup? (location.flatMap Step.path) schema

end Locations

section Types

variable {t : TypeName} {ts : List TypeName} {vs : List Value}

/-- Types as they came up, each once, without the integers if there are other numbers. -/
def distinctTypes (ts : List TypeName) : List TypeName :=
  ts.eraseDups.filter fun t => ¬ (t = .integer ∧ .number ∈ ts)

theorem mem_distinctTypes : t ∈ distinctTypes ts ↔ t ∈ ts ∧ ¬ (t = .integer ∧ .number ∈ ts) := by
  simp only [distinctTypes, List.mem_filter, List.mem_eraseDups, decide_eq_true_eq]

theorem mem_distinctTypes_of_ne (other : t ≠ .integer) : t ∈ distinctTypes ts ↔ t ∈ ts := by
  simp [mem_distinctTypes, other]

/-- Noting one type more keeps the types as they came up. -/
theorem noteType_distinctTypes (t : TypeName) (ts : List TypeName) :
    noteType t (distinctTypes ts) = distinctTypes (ts ++ [t]) := by
  have number : .number ∈ distinctTypes ts ↔ .number ∈ ts := mem_distinctTypes_of_ne (by decide)
  unfold noteType
  simp only [List.contains_iff_mem, number]
  by_cases old : t ∈ ts
  · -- A type that came up before is noted, unless it is an integer among other numbers.
    have same : distinctTypes (ts ++ [t]) = distinctTypes ts := by
      have numbers : .number ∈ ts ++ [t] ↔ .number ∈ ts := by
        rw [List.mem_append]
        exact or_iff_left_of_imp fun last => List.mem_singleton.mp last ▸ old
      rw [distinctTypes, eraseDups_concat, if_pos old, List.append_nil]
      simp only [numbers, distinctTypes]
    rw [same]
    split_ifs with known widened whole
    · rfl
    · rfl
    · exact absurd (whole ▸ number.mpr (whole ▸ old)) known
    · exact absurd (mem_distinctTypes.mpr ⟨old, widened⟩) known
  · have new : t ∉ distinctTypes ts := fun known => old (mem_distinctTypes.mp known).1
    rw [if_neg new, distinctTypes, distinctTypes, eraseDups_concat, if_neg old, List.filter_append]
    split_ifs with widened whole
    · simp [widened]
    · simp only [whole, List.filter_filter]
      congr 1
      refine List.filter_congr fun u _ => ?_
      by_cases integer : u = .integer <;> simp [integer]
    · have numbers : .number ∈ ts ++ [t] ↔ .number ∈ ts := by simp [Ne.symm whole]
      simp only [numbers, List.filter_cons, decide_eq_true widened, if_true, List.filter_nil]

theorem kinds_eq_distinctTypes (vs : List Value) : kinds vs = distinctTypes (vs.map typeOf) := by
  induction vs using List.reverseRecOn with
  | nil => rfl
  | append_singleton vs v ih =>
    rw [kinds_concat, ih, noteType_distinctTypes, List.map_append, List.map_singleton]

/-- One name alone, several names as an array. -/
def typeNames : List TypeName → Value
  | [t] => .string t.name
  | ts => .ofStrings (ts.map TypeName.name)

theorem typeValue_of_ne_nil (named : ts ≠ []) : typeValue ts = some (typeNames ts) := by
  rcases ts with _ | ⟨t, _ | ⟨u, ts⟩⟩
  · exact absurd rfl named
  · rfl
  · rfl

theorem kinds_ne_nil (present : vs ≠ []) : kinds vs ≠ [] := by
  obtain ⟨v, member⟩ := List.exists_mem_of_ne_nil vs present
  rcases covers_kinds member with here | ⟨-, here⟩ <;> exact List.ne_nil_of_mem here

end Types

section Exact

variable {vs : List Value} {types : List TypeName} {members : List (String × Nat × Shape)}
  {objects : Nat} {items : Option Shape} {key : String} {ms : Object}

/-- The keywords of a schema say of some values just what was observed. -/
structure Exact (keywords : Object) (vs : List Value) : Prop where
  only : ∀ keyword ∈ keywords.keys, keyword ∈ ["items", "properties", "required", "type"]
  type : keywords.get? "type" = some (typeNames (distinctTypes (vs.map typeOf)))
  objectless : (∀ ms, .object ms ∉ vs) → keywords.get? "properties" = none
  properties : ∀ ms, .object ms ∈ vs → ∃ properties : Object,
    keywords.get? "properties" = some (.object properties) ∧ properties.Sorted ∧
      ∀ key, key ∈ properties.keys ↔ ∃ ms, .object ms ∈ vs ∧ key ∈ Object.keys ms
  required : ∃ names : List String, names.Pairwise (· < ·) ∧
    (∀ key, key ∈ names ↔
      (∃ ms, .object ms ∈ vs) ∧ ∀ ms, .object ms ∈ vs → key ∈ Object.keys ms) ∧
    keywords.get? "required" = if names = [] then none else some (.ofStrings names)
  items : (keywords.get? "items").isSome ↔ ∃ xs, .array xs ∈ vs ∧ xs ≠ []

theorem mem_objectsOf : ms ∈ objectsOf vs ↔ .object ms ∈ vs := by
  rw [objectsOf, List.mem_filterMap]
  constructor
  · rintro ⟨v, member, here⟩
    cases v <;> cases here
    exact member
  · intro member
    exact ⟨_, member, rfl⟩

theorem elements_ne_nil : elements vs ≠ [] ↔ ∃ xs, .array xs ∈ vs ∧ xs ≠ [] := by
  constructor
  · intro nonempty
    obtain ⟨x, member⟩ := List.exists_mem_of_ne_nil _ nonempty
    obtain ⟨v, listed, inside⟩ := List.mem_flatMap.mp member
    cases v with
    | array xs => exact ⟨xs, listed, List.ne_nil_of_mem inside⟩
    | _ => cases inside
  · rintro ⟨xs, array, nonempty⟩
    obtain ⟨x, inside⟩ := List.exists_mem_of_ne_nil xs nonempty
    exact List.ne_nil_of_mem (mem_elements array inside)

theorem object_mem_kinds : .object ∈ kinds vs ↔ ∃ ms, .object ms ∈ vs := by
  rw [kinds_eq_distinctTypes, mem_distinctTypes_of_ne (by decide), List.mem_map]
  constructor
  · rintro ⟨v, member, object⟩
    rcases v with _ | _ | (_ | _) | _ | _ | ms <;> cases object
    exact ⟨ms, member⟩
  · rintro ⟨ms, member⟩
    exact ⟨_, member, rfl⟩

theorem valuesAt_ne_nil :
    valuesAt vs key ≠ [] ↔ ∃ ms, .object ms ∈ vs ∧ key ∈ Object.keys ms := by
  constructor
  · intro nonempty
    obtain ⟨x, member⟩ := List.exists_mem_of_ne_nil _ nonempty
    obtain ⟨ms, object, found⟩ := List.mem_filterMap.mp member
    exact ⟨ms, mem_objectsOf.mp object, Object.isSome_get?.mp (found ▸ rfl)⟩
  · rintro ⟨ms, object, member⟩
    obtain ⟨x, found⟩ := Option.isSome_iff_exists.mp (Object.isSome_get?.mpr member)
    exact List.ne_nil_of_mem (mem_valuesAt object found)

theorem length_valuesAt : (valuesAt vs key).length = (objectsOf vs).length ↔
    ∀ ms, .object ms ∈ vs → key ∈ Object.keys ms := by
  rw [valuesAt, List.filterMap_length_eq_length]
  simp only [mem_objectsOf, Object.isSome_get?]

theorem mem_of_lookup {m : Nat × Shape} (found : members.lookup key = some m) :
    (key, m) ∈ members := by
  obtain ⟨before, after, rfl, -⟩ := List.lookup_eq_some_iff.mp found
  simp

section Members

variable {under : String → List Value} (h : MembersDescribe members under)
include h

theorem MembersDescribe.mem_keys : key ∈ members.map (·.1) ↔ under key ≠ [] := by
  have each := h.each key
  rcases found : members.lookup key with _ | m <;> rw [found] at each
  · refine iff_of_false (fun member => ?_) (not_not.mpr each)
    obtain ⟨m, listed, rfl⟩ := List.mem_map.mp member
    cases found.symm.trans (lookup_of_mem h.sorted listed)
  · exact iff_of_true (List.mem_map.mpr ⟨_, mem_of_lookup found, rfl⟩) each.1

theorem MembersDescribe.mem_requiredKeys :
    key ∈ requiredKeys objects members ↔ under key ≠ [] ∧ (under key).length = objects := by
  have each := h.each key
  rw [requiredKeys, List.mem_map]
  constructor
  · rintro ⟨m, listed, rfl⟩
    obtain ⟨listed, always⟩ := List.mem_filter.mp listed
    rw [lookup_of_mem h.sorted listed] at each
    exact ⟨each.1, each.2.1 ▸ of_decide_eq_true always⟩
  · rintro ⟨present, always⟩
    rcases found : members.lookup key with _ | ⟨n, s⟩ <;> rw [found] at each
    · exact absurd each present
    · refine ⟨(key, n, s), List.mem_filter.mpr ⟨mem_of_lookup found, ?_⟩, rfl⟩
      exact decide_eq_true (each.2.1.trans always)

theorem MembersDescribe.sorted_memberSchemas : Object.Sorted (memberSchemas members) := by
  rw [memberSchemas_eq_map, Object.Sorted, Object.keys, List.map_map]
  exact h.sorted

theorem MembersDescribe.mem_keys_memberSchemas :
    key ∈ Object.keys (memberSchemas members) ↔ under key ≠ [] := by
  rw [memberSchemas_eq_map, Object.keys, List.map_map]
  exact h.mem_keys

end Members

/-- A member that is counted as often as there are objects is in each of them. -/
theorem MembersDescribe.mem_requiredKeys_iff (h : MembersDescribe members (valuesAt vs)) :
    key ∈ requiredKeys (objectsOf vs).length members ↔
      (∃ ms, .object ms ∈ vs) ∧ ∀ ms, .object ms ∈ vs → key ∈ Object.keys ms := by
  rw [h.mem_requiredKeys, length_valuesAt, valuesAt_ne_nil]
  constructor
  · rintro ⟨⟨ms, object, -⟩, all⟩
    exact ⟨⟨ms, object⟩, all⟩
  · rintro ⟨⟨ms, object⟩, all⟩
    exact ⟨⟨ms, object, all ms object⟩, all⟩

theorem sorted_requiredKeys (sorted : (members.map (·.1)).Pairwise (· < ·)) :
    (requiredKeys objects members).Pairwise (· < ·) :=
  sorted.sublist (List.filter_sublist.map _)

/-- The keywords that a shape makes. -/
def options (types : List TypeName) (members : List (String × Nat × Shape)) (objects : Nat)
    (items : Option Shape) : List (String × Option Value) :=
  [("items", itemsSchema items),
    ("properties", if types.contains .object then some (.object (memberSchemas members)) else none),
    ("required", if types.contains .object && !(requiredKeys objects members).isEmpty
      then some (.ofStrings (requiredKeys objects members)) else none),
    ("type", typeValue types)]

theorem toSchema_eq (types : List TypeName) (members : List (String × Nat × Shape)) (objects : Nat)
    (items : Option Shape) : toSchema (.seen types members objects items) =
      .object (Object.ofOptions (options types members objects items)) := rfl

theorem sorted_options : ((options types members objects items).map (·.1)).Pairwise (· < ·) := by
  show ["items", "properties", "required", "type"].Pairwise (· < ·)
  decide +kernel

theorem get?_options {v : Option Value} (listed : (key, v) ∈ options types members objects items) :
    Object.get? key (Object.ofOptions (options types members objects items)) = v :=
  Object.get?_ofOptions sorted_options listed

/-- The schema of a shape says of the values that the shape describes just what was observed. -/
theorem Describes.exact {s : Shape} (h : Describes s vs) (present : vs ≠ []) :
    ∃ keywords, s.toSchema = .object keywords ∧ Exact keywords vs := by
  obtain ⟨types, members, objects, items⟩ := s
  obtain ⟨rfl, rfl, inMembers, inItems⟩ := describes_iff.mp h
  refine ⟨_, toSchema_eq _ _ _ _, ?_, ?_, ?_, ?_, ?_, ?_⟩
  · intro key member
    obtain ⟨m, inside, rfl⟩ := List.mem_map.mp member
    exact List.mem_map_of_mem (f := Prod.fst) (Object.mem_ofOptions inside)
  · rw [get?_options (v := typeValue (kinds vs)) (by simp [options]),
      typeValue_of_ne_nil (kinds_ne_nil present), kinds_eq_distinctTypes]
  · intro absent
    have objectless : .object ∉ kinds vs := fun known => by
      obtain ⟨ms, object⟩ := object_mem_kinds.mp known
      exact absent ms object
    exact get?_options (by simp [options, objectless])
  · intro ms object
    have known : .object ∈ kinds vs := object_mem_kinds.mpr ⟨ms, object⟩
    refine ⟨memberSchemas members, get?_options (by simp [options, known]),
      inMembers.sorted_memberSchemas, fun key => ?_⟩
    rw [inMembers.mem_keys_memberSchemas, valuesAt_ne_nil]
  · refine ⟨requiredKeys (objectsOf vs).length members, sorted_requiredKeys inMembers.sorted,
      fun _ => inMembers.mem_requiredKeys_iff, get?_options ?_⟩
    have known (asked : requiredKeys (objectsOf vs).length members ≠ []) :
        .object ∈ kinds vs := by
      obtain ⟨key, listed⟩ := List.exists_mem_of_ne_nil _ asked
      exact object_mem_kinds.mpr (inMembers.mem_requiredKeys_iff.mp listed).1
    by_cases unasked : requiredKeys (objectsOf vs).length members = []
    · simp [options, unasked]
    · simp [options, unasked, known unasked]
  · rw [get?_options (v := itemsSchema items) (by simp [options]), ← elements_ne_nil]
    rcases items with _ | s
    · exact iff_of_false nofun (not_not.mpr inItems)
    · exact iff_of_true rfl inItems.1

theorem get?_memberSchemas (key : String) (members : List (String × Nat × Shape)) :
    Object.get? key (memberSchemas members) =
      (members.lookup key).map fun m => m.2.toSchema := by
  induction members with
  | nil => rfl
  | cons m members ih =>
    obtain ⟨k, n, s⟩ := m
    rw [memberSchemas, Object.get?, lookup_cons_eq, ih]
    by_cases same : k = key
    · simp [same]
    · simp [same, Ne.symm same]

theorem lookup?_properties : Pointer.lookup? ["properties", key]
      (toSchema (.seen types members objects items)) =
    if types.contains .object then (members.lookup key).map fun m => m.2.toSchema else none := by
  have properties : Object.get? "properties" (Object.ofOptions
      (options types members objects items)) =
        if types.contains .object then some (.object (memberSchemas members)) else none :=
    get?_options (by simp [options])
  rw [toSchema_eq, Pointer.lookup?, Pointer.child?, properties]
  split
  · rw [← get?_memberSchemas]
    show (Object.get? key (memberSchemas members)).bind some = _
    exact Option.bind_fun_some _
  · rfl

theorem lookup?_items :
    Pointer.lookup? ["items"] (toSchema (.seen types members objects items)) =
      itemsSchema items := by
  have source : Object.get? "items" (Object.ofOptions (options types members objects items)) =
      itemsSchema items := get?_options (by simp [options])
  rw [toSchema_eq, Pointer.lookup?, Pointer.child?, source]
  exact Option.bind_fun_some _

/-- What is behind a step is described by the schema behind it, or there is neither. -/
theorem Describes.inside {s : Shape} (h : Describes s vs) (step : Step) :
    (step.inside vs = [] ∧ Pointer.lookup? step.path s.toSchema = none) ∨
      step.inside vs ≠ [] ∧ ∃ inner, Pointer.lookup? step.path s.toSchema = some inner.toSchema ∧
        Describes inner (step.inside vs) := by
  obtain ⟨types, members, objects, items⟩ := s
  obtain ⟨rfl, -, inMembers, inItems⟩ := describes_iff.mp h
  cases step with
  | member key =>
    have each := inMembers.each key
    rw [Step.path, lookup?_properties]
    rcases found : members.lookup key with _ | ⟨n, s⟩ <;> rw [found] at each
    · exact .inl ⟨each, by simp⟩
    · obtain ⟨present, -, inner⟩ := each
      obtain ⟨ms, object, -⟩ := valuesAt_ne_nil.mp present
      have known : .object ∈ kinds vs := object_mem_kinds.mpr ⟨ms, object⟩
      exact .inr ⟨present, s, if_pos (List.contains_iff_mem.mpr known), inner⟩
  | item =>
    rw [Step.path, lookup?_items]
    rcases items with _ | s
    · exact .inl ⟨inItems, rfl⟩
    · exact .inr ⟨inItems.1, s, rfl, inItems.2⟩

/-- What is observed at a location is described by the schema there, or there is neither. -/
theorem Describes.observed {s : Shape} (h : Describes s vs) (location : List Step) :
    (observed location vs ≠ [] → ∃ inner, schemaAt? location s.toSchema = some inner.toSchema ∧
        Describes inner (observed location vs)) ∧
      (vs ≠ [] → observed location vs = [] → schemaAt? location s.toSchema = none) := by
  induction location generalizing s vs with
  | nil => exact ⟨fun _ => ⟨s, rfl, h⟩, fun present empty => absurd empty present⟩
  | cons step location ih =>
    have path : schemaAt? (step :: location) s.toSchema =
        (Pointer.lookup? step.path s.toSchema).bind (schemaAt? location) := by
      rw [schemaAt?, List.flatMap_cons, Pointer.lookup?_append]
      rfl
    rw [Shape.observed, path]
    rcases h.inside step with ⟨empty, missing⟩ | ⟨present, inner, there, described⟩
    · rw [empty, missing, observed_nil]
      exact ⟨fun present => absurd rfl present, fun _ _ => rfl⟩
    · rw [there]
      exact ⟨(ih described).1, fun _ => (ih described).2 present⟩

/-- A schema that is exact at every location of some values, and has none for other locations. -/
structure ExactThroughout (schema : Value) (vs : List Value) : Prop where
  exact : ∀ location, Shape.observed location vs ≠ [] →
    ∃ keywords, schemaAt? location schema = some (.object keywords) ∧
      Exact keywords (Shape.observed location vs)
  absent : ∀ location, Shape.observed location vs = [] → schemaAt? location schema = none

theorem Describes.exactThroughout {s : Shape} (h : Describes s vs) (present : vs ≠ []) :
    ExactThroughout s.toSchema vs where
  exact location some := by
    obtain ⟨inner, here, described⟩ := (h.observed location).1 some
    obtain ⟨keywords, object, exact⟩ := described.exact some
    exact ⟨keywords, here.trans (congrArg _ object), exact⟩
  absent location := (h.observed location).2 present

end Exact

end Shape

end DocumentMigration
