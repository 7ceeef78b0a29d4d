import DocumentMigration.Proofs.Schema.Exact
import Mathlib.Data.List.Forall2
import Mathlib.Data.List.Sort

/-!
The order of documents shows in a suggested schema in one way only: where several types were
observed, their names stand in the order in which they came up.
-/
namespace DocumentMigration

open Json

mutual
/-- Schemas that differ in the order of the names of types, here or in a schema inside. -/
inductive SameButTypes : Value → Value → Prop
  | schema {ms ns} : SameKeywords ms ns → SameButTypes (.object ms) (.object ns)

inductive SameKeywords : List (String × Value) → List (String × Value) → Prop
  | nil : SameKeywords [] []
  | cons {keyword v w ms ns} : SameKeyword keyword v w → SameKeywords ms ns →
      SameKeywords ((keyword, v) :: ms) ((keyword, w) :: ns)

inductive SameKeyword : String → Value → Value → Prop
  | same (keyword v) : SameKeyword keyword v v
  | type {names names' : List String} : names.Perm names' →
      SameKeyword "type" (.ofStrings names) (.ofStrings names')
  | items {s t} : SameButTypes s t → SameKeyword "items" s t
  | properties {ps qs} : SameProperties ps qs → SameKeyword "properties" (.object ps) (.object qs)

inductive SameProperties : List (String × Value) → List (String × Value) → Prop
  | nil : SameProperties [] []
  | cons {key s t ps qs} : SameButTypes s t → SameProperties ps qs →
      SameProperties ((key, s) :: ps) ((key, t) :: qs)
end

/-- Keywords that are there in one schema just if they are in the other. -/
theorem SameKeywords.ofOptions {os ps : List (String × Option Value)}
    (each : List.Forall₂ (fun o p => o.1 = p.1 ∧ Option.Rel (SameKeyword o.1) o.2 p.2) os ps) :
    SameKeywords (os.filterMap fun (k, v) => v.map (k, ·))
      (ps.filterMap fun (k, v) => v.map (k, ·)) := by
  induction each with
  | nil => exact .nil
  | @cons o p os ps first _ ih =>
    obtain ⟨key, v⟩ := o
    obtain ⟨key', w⟩ := p
    obtain ⟨rfl, alike⟩ := first
    cases alike with
    | none => exact ih
    | some alike => exact .cons alike ih

namespace Shape

section Permuted

variable {vs ws : List Value} {members members' : List (String × Nat × Shape)}

theorem perm_valuesAt (perm : vs.Perm ws) (key : String) :
    (valuesAt vs key).Perm (valuesAt ws key) :=
  (perm.filterMap _).filterMap _

theorem perm_elements (perm : vs.Perm ws) : (elements vs).Perm (elements ws) :=
  perm.flatMap_right _

theorem perm_kinds (perm : vs.Perm ws) : (kinds vs).Perm (kinds ws) := by
  refine (List.perm_ext_iff_of_nodup (nodup_kinds vs) (nodup_kinds ws)).mpr fun t => ?_
  have types := perm.map typeOf
  rw [kinds_eq_distinctTypes, kinds_eq_distinctTypes, mem_distinctTypes, mem_distinctTypes,
    types.mem_iff, types.mem_iff]

theorem sameKeyword_typeValue {types types' : List TypeName} (perm : types.Perm types') :
    Option.Rel (SameKeyword "type") (typeValue types) (typeValue types') := by
  rcases types with _ | ⟨t, _ | ⟨u, types⟩⟩
  · cases perm.nil_eq
    exact .none
  · cases perm.singleton_eq
    exact .some (.same _ _)
  · rcases types' with _ | ⟨t', _ | ⟨u', types'⟩⟩
    · cases perm.eq_nil
    · cases perm.eq_singleton
    · exact .some (.type (perm.map _))

section Members

variable {under under' : String → List Value} (left : MembersDescribe members under)
  (right : MembersDescribe members' under') (perm : ∀ key, (under key).Perm (under' key))
include left right perm

theorem MembersDescribe.keys_eq : members.map (·.1) = members'.map (·.1) := by
  have known (key : String) : key ∈ members.map (·.1) ↔ key ∈ members'.map (·.1) := by
    rw [left.mem_keys, right.mem_keys, ← List.length_pos_iff, ← List.length_pos_iff,
      (perm key).length_eq]
  exact left.sorted.eq_of_mem_iff right.sorted known

/-- Members are there in pairs, with one count and shapes that describe the same values. -/
theorem MembersDescribe.paired : List.Forall₂ (fun m n => m ∈ members ∧ m.1 = n.1 ∧
    m.2.1 = n.2.1 ∧ Describes n.2.2 (under' m.1)) members members' := by
  have keys := left.keys_eq right perm
  refine List.forall₂_iff_get.mpr ⟨by simpa using congrArg List.length keys, fun i h h' => ?_⟩
  have key : members[i].1 = members'[i].1 := by
    have here := congrArg (·[i]?) keys
    simpa [h, h'] using here
  have each := left.each members[i].1
  have each' := right.each members'[i].1
  rw [lookup_of_mem left.sorted (List.getElem_mem h)] at each
  rw [lookup_of_mem right.sorted (List.getElem_mem h'), ← key] at each'
  refine ⟨List.getElem_mem h, key, ?_, each'.2.2⟩
  exact each.2.1.trans ((perm _).length_eq.trans each'.2.1.symm)

end Members

theorem sameProperties_memberSchemas (alike : List.Forall₂ (fun m n => m.1 = n.1 ∧
      SameButTypes m.2.2.toSchema n.2.2.toSchema) members members') :
    SameProperties (memberSchemas members) (memberSchemas members') := by
  induction alike with
  | nil => exact .nil
  | @cons m n _ _ first _ ih =>
    obtain ⟨key, k, s⟩ := m
    obtain ⟨key', k', s'⟩ := n
    obtain ⟨rfl, alike⟩ := first
    exact .cons alike ih

theorem requiredKeys_congr (objects : Nat)
    (alike : List.Forall₂ (fun m n => m.1 = n.1 ∧ m.2.1 = n.2.1) members members') :
    requiredKeys objects members = requiredKeys objects members' := by
  induction alike with
  | nil => rfl
  | @cons m n _ _ first _ ih =>
    obtain ⟨key, count⟩ := first
    simp only [requiredKeys, List.filter_cons, ← count] at ih ⊢
    split
    · rw [List.map_cons, List.map_cons, key, ih]
    · exact ih

/-- What two schemas are made of decides whether they differ in the order of types only. -/
theorem sameButTypes_toSchema {types types' : List TypeName} {objects : Nat}
    {items items' : Option Shape} (perm : types.Perm types')
    (required : requiredKeys objects members = requiredKeys objects members')
    (properties : SameProperties (memberSchemas members) (memberSchemas members'))
    (item : Option.Rel (fun s s' => SameButTypes s.toSchema s'.toSchema) items items') :
    SameButTypes (toSchema (.seen types members objects items))
      (toSchema (.seen types' members' objects items')) := by
  have object : types.contains .object = types'.contains .object := perm.contains_eq
  rw [toSchema_eq, toSchema_eq, Object.ofOptions_of_sorted sorted_options,
    Object.ofOptions_of_sorted sorted_options]
  refine .schema (.ofOptions ?_)
  refine .cons ⟨rfl, ?_⟩ (.cons ⟨rfl, ?_⟩ (.cons ⟨rfl, ?_⟩ (.cons ⟨rfl, ?_⟩ .nil)))
  · cases item with
    | none => exact .none
    | some alike => exact .some (.items alike)
  · rw [object]
    split
    · exact .some (.properties properties)
    · exact .none
  · rw [object, required]
    split
    · exact .some (.same _ _)
    · exact .none
  · exact sameKeyword_typeValue perm

/-- Shapes of the same values in another order make the same schema but for the order of types. -/
theorem Describes.sameButTypes {s : Shape} (h : Describes s vs) :
    ∀ {s' ws}, Describes s' ws → vs.Perm ws → SameButTypes s.toSchema s'.toSchema := by
  induction h with
  | @seen types members objects items vs types_eq objects_eq sorted absent present described
      itemless itemed itemDescribed member item =>
    have inMembers := (Describes.seen types_eq objects_eq sorted absent present described
      itemless itemed itemDescribed).inMembers
    rintro ⟨types', members', objects', items'⟩ ws h' perm
    obtain ⟨rfl, rfl, inMembers', inItems'⟩ := describes_iff.mp h'
    have paired := inMembers.paired inMembers' (perm_valuesAt perm)
    have counted : objects = (objectsOf ws).length :=
      objects_eq.trans (perm.filterMap _).length_eq
    subst counted
    refine sameButTypes_toSchema (types_eq ▸ perm_kinds perm) ?_ ?_ ?_
    · exact requiredKeys_congr _ (paired.imp fun m n pair => ⟨pair.2.1, pair.2.2.1⟩)
    · refine sameProperties_memberSchemas (paired.imp fun m n pair => ?_)
      obtain ⟨listed, key, -, inner⟩ := pair
      refine ⟨key, member m.1 m.2.1 m.2.2 ?_ inner (perm_valuesAt perm m.1)⟩
      exact lookup_of_mem sorted listed
    · have inside := perm_elements perm
      rcases items with _ | s <;> rcases items' with _ | s'
      · exact .none
      · rw [itemless rfl] at inside
        exact absurd inside.nil_eq.symm inItems'.1
      · rw [show elements ws = [] from inItems'] at inside
        exact absurd inside.eq_nil (itemed s rfl)
      · exact .some (item s rfl inItems'.2 inside)

end Permuted

end Shape

open Shape

/-- The schema that documents suggest says at every location just what was observed there. The
order of the documents shows in the order of the names of types, and nowhere else. -/
theorem inferItemSchema_exact (collection : String) {documents : List Snapshot}
    (present : documents ≠ [])
    (distinct : ∀ d ∈ documents, (Value.object d.data).DistinctKeys) :
    ∃ schema, inferItemSchema collection documents = .ok schema ∧
      ExactThroughout schema (documents.map fun d => .object d.data) ∧
      ∀ permuted, permuted.Perm documents → ∃ schema',
        inferItemSchema collection permuted = .ok schema' ∧ SameButTypes schema schema' := by
  have described := describes_ofDocuments distinct
  refine ⟨_, if_neg (by simpa using present), described.exactThroughout (by simpa using present),
    fun permuted perm => ?_⟩
  have present' : permuted ≠ [] := fun empty => present (empty ▸ perm).nil_eq.symm
  have described' := describes_ofDocuments fun d member => distinct d (perm.mem_iff.mp member)
  exact ⟨_, if_neg (by simpa using present'),
    described.sameButTypes described' (perm.symm.map _)⟩

namespace Sample

/-- The levels of the readings are an integer and another number; one list of marks is empty. -/
def readings : List Snapshot :=
  [⟨"r1", [("level", .number (.ofNat 3)), ("marks", .array [])]⟩,
    ⟨"r2", [("level", .number (.float .zero)), ("marks", .array [.null, .object []])]⟩]

theorem inferItemSchema_exact_of_readings :
    readings ≠ [] ∧ (∀ d ∈ readings, (Value.object d.data).DistinctKeys) ∧
    ∃ schema, inferItemSchema "readings" readings = .ok schema ∧
      ExactThroughout schema (readings.map fun d => .object d.data) ∧
      ∀ permuted, permuted.Perm readings → ∃ schema',
        inferItemSchema "readings" permuted = .ok schema' ∧ SameButTypes schema schema' := by
  have distinct : ∀ d ∈ readings, (Value.object d.data).DistinctKeys := by
    simp [readings, Value.DistinctKeys, Value.MembersDistinctKeys, Value.ItemsDistinctKeys,
      Object.keys]
  exact ⟨List.cons_ne_nil _ _, distinct,
    inferItemSchema_exact "readings" (List.cons_ne_nil _ _) distinct⟩

example : observed [.member "marks", .item] (readings.map fun d => .object d.data) =
      [.null, .object []] ∧
    schemaAt? [.member "marks", .item] (Shape.ofDocuments readings).toSchema =
      some (.object [("properties", .object []), ("type", .ofStrings ["null", "object"])]) :=
  ⟨rfl, rfl⟩

end Sample

end DocumentMigration
