import DocumentMigration.Schema.Infer
import DocumentMigration.Proofs.Json.Object
import Mathlib.Data.List.Nodup

/-!
What a shape says of the values that it has observed: their types as they were first seen, the
members of the objects among them with how often each was there, and the items of the arrays.
Observing one value more keeps this up.
-/
namespace DocumentMigration.Shape

open Json

/-- The types of some values, noted one after another. -/
def kinds (vs : List Value) : List TypeName :=
  vs.foldl (fun types v => noteType (typeOf v) types) []

def object? : Value → Option Object
  | .object ms => some ms
  | _ => none

def itemsOf : Value → List Value
  | .array xs => xs
  | _ => []

/-- The objects among some values. -/
def objectsOf (vs : List Value) : List Object := vs.filterMap object?

/-- The values that the objects have under a key. -/
def valuesAt (vs : List Value) (key : String) : List Value :=
  (objectsOf vs).filterMap (Object.get? key)

/-- The items of all arrays, one array after another. -/
def elements (vs : List Value) : List Value := vs.flatMap itemsOf

/-- A shape that says just what its values are. -/
inductive Describes : Shape → List Value → Prop
  | seen {types members objects items vs}
      (types_eq : types = kinds vs)
      (objects_eq : objects = (objectsOf vs).length)
      (sorted : (members.map (·.1)).Pairwise (· < ·))
      (absent : ∀ k, members.lookup k = none → valuesAt vs k = [])
      (present : ∀ k n s, members.lookup k = some (n, s) →
        valuesAt vs k ≠ [] ∧ n = (valuesAt vs k).length)
      (member : ∀ k n s, members.lookup k = some (n, s) → Describes s (valuesAt vs k))
      (itemless : items = none → elements vs = [])
      (itemed : ∀ s, items = some s → elements vs ≠ [])
      (item : ∀ s, items = some s → Describes s (elements vs)) :
      Describes (.seen types members objects items) vs

/-- The shape of items, which is there once there was an item. -/
def ItemsDescribe : Option Shape → List Value → Prop
  | none, xs => xs = []
  | some s, xs => xs ≠ [] ∧ Describes s xs

/-- The shape of a member with its count, which is there once there was such a member. -/
def MemberDescribes : Option (Nat × Shape) → List Value → Prop
  | none, xs => xs = []
  | some (n, s), xs => xs ≠ [] ∧ n = xs.length ∧ Describes s xs

/-- The shapes of members, each for the values under its key. -/
structure MembersDescribe (members : List (String × Nat × Shape)) (under : String → List Value) :
    Prop where
  sorted : (members.map (·.1)).Pairwise (· < ·)
  each : ∀ k, MemberDescribes (members.lookup k) (under k)

section Describes

variable {types : List TypeName} {members : List (String × Nat × Shape)} {objects : Nat}
  {items : Option Shape} {vs : List Value}

theorem describes_iff : Describes (.seen types members objects items) vs ↔
    types = kinds vs ∧ objects = (objectsOf vs).length ∧ MembersDescribe members (valuesAt vs) ∧
      ItemsDescribe items (elements vs) := by
  constructor
  · rintro (⟨types_eq, objects_eq, sorted, absent, present, member, itemless, itemed, item⟩)
    refine ⟨types_eq, objects_eq, ⟨sorted, fun k => ?_⟩, ?_⟩
    · rcases found : members.lookup k with _ | ⟨n, s⟩
      · exact absent k found
      · exact ⟨(present k n s found).1, (present k n s found).2, member k n s found⟩
    · rcases items with _ | s
      · exact itemless rfl
      · exact ⟨itemed s rfl, item s rfl⟩
  · rintro ⟨types_eq, objects_eq, ⟨sorted, each⟩, shaped⟩
    have found k n s (found : members.lookup k = some (n, s)) :
        MemberDescribes (some (n, s)) (valuesAt vs k) := found ▸ each k
    refine .seen types_eq objects_eq sorted ?_ ?_ ?_ ?_ ?_ ?_
    · intro k none
      have each := each k
      rwa [none] at each
    · intro k n s some
      exact ⟨(found k n s some).1, (found k n s some).2.1⟩
    · intro k n s some
      exact (found k n s some).2.2
    · rintro rfl
      exact shaped
    · rintro s rfl
      exact shaped.1
    · rintro s rfl
      exact shaped.2

theorem Describes.inMembers (h : Describes (.seen types members objects items) vs) :
    MembersDescribe members (valuesAt vs) :=
  (describes_iff.mp h).2.2.1

theorem Describes.inItems (h : Describes (.seen types members objects items) vs) :
    ItemsDescribe items (elements vs) :=
  (describes_iff.mp h).2.2.2

theorem describes_blank : Describes blank [] :=
  describes_iff.mpr ⟨rfl, rfl, ⟨.nil, fun _ => rfl⟩, rfl⟩

theorem kinds_concat (vs : List Value) (v : Value) :
    kinds (vs ++ [v]) = noteType (typeOf v) (kinds vs) := by
  simp [kinds]

theorem objectsOf_concat (vs : List Value) (v : Value) :
    objectsOf (vs ++ [v]) = objectsOf vs ++ (object? v).toList := by
  cases found : object? v <;> simp [objectsOf, found]

theorem valuesAt_concat (vs : List Value) (v : Value) (key : String) :
    valuesAt (vs ++ [v]) key = valuesAt vs key ++ ((object? v).bind (Object.get? key)).toList := by
  rw [valuesAt, objectsOf_concat, List.filterMap_append, valuesAt]
  rcases object? v with _ | ms
  · simp
  · rcases found : Object.get? key ms <;> simp [found]

theorem elements_concat (vs : List Value) (v : Value) :
    elements (vs ++ [v]) = elements vs ++ itemsOf v := by
  simp [elements]

theorem mem_elements {xs : List Value} {x : Value} (array : .array xs ∈ vs) (member : x ∈ xs) :
    x ∈ elements vs :=
  List.mem_flatMap.mpr ⟨_, array, member⟩

theorem mem_valuesAt {ms : Object} {key : String} {x : Value} (object : .object ms ∈ vs)
    (found : Object.get? key ms = some x) : x ∈ valuesAt vs key :=
  List.mem_filterMap.mpr ⟨ms, List.mem_filterMap.mpr ⟨_, object, rfl⟩, found⟩

end Describes

section Types

variable {types : List TypeName} {t u : TypeName} {v : Value} {vs : List Value}

/-- A type that is noted, or an integer where a number is. -/
def Covers (types : List TypeName) (t : TypeName) : Prop :=
  t ∈ types ∨ t = .integer ∧ .number ∈ types

theorem nodup_noteType (nodup : types.Nodup) : (noteType t types).Nodup := by
  unfold noteType
  split_ifs with known widened number
  · exact nodup
  · exact nodup
  · rw [← List.concat_eq_append]
    apply (nodup.filter _).concat
    intro old
    exact known (List.contains_iff_mem.mpr (List.mem_of_mem_filter old))
  · rw [← List.concat_eq_append]
    apply nodup.concat
    simpa using known

theorem covers_noteType_self (t : TypeName) (types : List TypeName) :
    Covers (noteType t types) t := by
  unfold noteType Covers
  split_ifs with known widened number
  · simpa using Or.inl known
  · simpa [widened.1] using Or.inr widened.2
  · simp
  · simp

theorem Covers.noteType (h : Covers types u) : Covers (noteType t types) u := by
  unfold Shape.noteType Covers
  rcases h with here | ⟨rfl, number⟩
  · split_ifs with known widened number
    · exact .inl here
    · exact .inl here
    · by_cases whole : u = .integer <;> simp [whole, here, number]
    · simp [here]
  · split_ifs <;> simp [number]

theorem nodup_kinds (vs : List Value) : (kinds vs).Nodup := by
  induction vs using List.reverseRecOn with
  | nil => exact .nil
  | append_singleton vs v ih =>
    rw [kinds_concat]
    exact nodup_noteType ih

theorem covers_kinds (member : v ∈ vs) : Covers (kinds vs) (typeOf v) := by
  induction vs using List.reverseRecOn with
  | nil => cases member
  | append_singleton vs w ih =>
    rw [kinds_concat]
    rcases List.mem_append.mp member with old | last
    · exact (ih old).noteType
    · rw [List.mem_singleton.mp last]
      exact covers_noteType_self _ _

/-- A value passes under the types of which its own is one. -/
theorem Covers.admits (h : Covers types (typeOf v)) : ∃ t ∈ types, t.admits v := by
  cases v with
  | number n =>
    rcases h with here | ⟨-, number⟩
    · refine ⟨_, here, ?_⟩
      cases n with
      | integer i range => simp [typeOf, TypeName.admits, Number.isWhole, Number.ratio]
      | float x => rfl
    · exact ⟨_, number, rfl⟩
  | null | bool | string | array | object =>
    rcases h with here | ⟨whole, -⟩
    · exact ⟨_, here, rfl⟩
    · cases whole

end Types

section Members

variable {members : List (String × Nat × Shape)} {key : String} {f : Shape → Shape}
  {under : String → List Value}

/-- One more member of a shape. -/
def counted (f : Shape → Shape) : Option (Nat × Shape) → Nat × Shape
  | none => (1, f blank)
  | some (n, s) => (n + 1, f s)

/-- A member finds its place like a member of an object. -/
theorem keys_observeMember (key : String) (f : Shape → Shape)
    (members : List (String × Nat × Shape)) :
    (observeMember key f members).map (·.1) =
      Object.keys (Object.insert key .null (members.map fun m => (m.1, .null))) := by
  induction members with
  | nil => rfl
  | cons m members ih =>
    obtain ⟨k, n, s⟩ := m
    rw [observeMember, List.map_cons, Object.insert]
    split
    · next same => simp [Object.keys, same]
    · split
      · simp [Object.keys]
      · rw [List.map_cons, ih]
        rfl

theorem sorted_observeMember (sorted : (members.map (·.1)).Pairwise (· < ·)) :
    ((observeMember key f members).map (·.1)).Pairwise (· < ·) := by
  rw [keys_observeMember]
  apply Object.Sorted.insert
  simpa [Object.Sorted, Object.keys, Function.comp_def] using sorted

theorem lookup_cons_eq {α : Type} (k key : String) (x : α) (ms : List (String × α)) :
    ((key, x) :: ms).lookup k = if k = key then some x else ms.lookup k := by
  by_cases same : k = key
  · simp [same]
  · have different : (k == key) = false := beq_false_of_ne same
    simp [List.lookup_cons, same, different]

theorem lookup_of_mem (sorted : (members.map (·.1)).Pairwise (· < ·)) {m : String × Nat × Shape}
    (member : m ∈ members) : members.lookup m.1 = some m.2 := by
  induction members with
  | nil => cases member
  | cons head members ih =>
    obtain ⟨above, sorted⟩ := List.pairwise_cons.mp sorted
    rw [lookup_cons_eq]
    rcases List.mem_cons.mp member with rfl | later
    · simp
    · have greater : head.1 < m.1 := above m.1 (List.mem_map_of_mem later)
      rw [if_neg (ne_of_gt greater), ih sorted later]

theorem lookup_observeMember (sorted : (members.map (·.1)).Pairwise (· < ·)) (k : String) :
    (observeMember key f members).lookup k =
      if k = key then some (counted f (members.lookup key)) else members.lookup k := by
  induction members with
  | nil => simp [observeMember, lookup_cons_eq, counted]
  | cons m members ih =>
    obtain ⟨k', n, s⟩ := m
    obtain ⟨above, sorted⟩ := List.pairwise_cons.mp sorted
    by_cases head : key = k'
    · subst head
      by_cases same : k = key <;> simp [observeMember, lookup_cons_eq, counted, same]
    by_cases less : key < k'
    · -- The key is smaller than all that are there, so it is new.
      have new : members.lookup key = none := by
        apply List.lookup_eq_none_iff.mpr
        intro m member
        have later : key < m.1 := lt_trans less (above m.1 (List.mem_map_of_mem member))
        exact bne_iff_ne.mpr (ne_of_lt later)
      simp [observeMember, lookup_cons_eq, counted, head, less, new]
    · have rest := ih sorted
      by_cases same : k = k'
      · simp [observeMember, head, less, same, Ne.symm head]
      · simp [observeMember, lookup_cons_eq, head, less, same, rest]

theorem MembersDescribe.observeMember {x : Value} (key : String)
    (h : MembersDescribe members under)
    (step : ∀ s vs, Describes s vs → Describes (f s) (vs ++ [x])) :
    MembersDescribe (Shape.observeMember key f members)
      (fun k => under k ++ if k = key then [x] else []) := by
  refine ⟨sorted_observeMember h.sorted, fun k => ?_⟩
  rw [lookup_observeMember h.sorted]
  by_cases same : k = key
  · subst same
    have each := h.each k
    rw [if_pos rfl, if_pos rfl]
    generalize members.lookup k = known at each ⊢
    rcases known with _ | ⟨n, s⟩
    · have first : under k = [] := each
      rw [first]
      exact ⟨by simp, rfl, step _ _ describes_blank⟩
    · obtain ⟨-, counted, described⟩ := each
      exact ⟨by simp, by simp [counted], step _ _ described⟩
  · rw [if_neg same, if_neg same, List.append_nil]
    exact h.each k

end Members

section Observe

/-- One value more, once its members and its items are described. -/
theorem Describes.concat {types : List TypeName} {members members' : List (String × Nat × Shape)}
    {objects : Nat} {items items' : Option Shape} {vs : List Value} (v : Value)
    (h : Describes (.seen types members objects items) vs)
    (inMembers : MembersDescribe members'
      fun k => valuesAt vs k ++ ((object? v).bind (Object.get? k)).toList)
    (inItems : ItemsDescribe items' (elements vs ++ itemsOf v)) :
    Describes (.seen (noteType (typeOf v) types) members' (objects + (object? v).toList.length)
      items') (vs ++ [v]) := by
  obtain ⟨types_eq, objects_eq, -, -⟩ := describes_iff.mp h
  apply describes_iff.mpr
  refine ⟨?_, ?_, ?_, ?_⟩
  · rw [kinds_concat, types_eq]
  · rw [objectsOf_concat, List.length_append, objects_eq]
  · rwa [funext (valuesAt_concat vs v)]
  · rwa [elements_concat]

mutual
/-- Observing a value describes the values with it as the last. -/
theorem Describes.observe : (v : Value) → v.DistinctKeys → ∀ {s vs}, Describes s vs →
    Describes (Shape.observe v s) (vs ++ [v])
  | .array xs, distinct, .seen .., _, h =>
    h.concat (.array xs) (by simpa [object?] using h.inMembers)
      (ItemsDescribe.observe xs distinct h.inItems)
  | .object ms, distinct, .seen .., _, h =>
    h.concat (.object ms) (MembersDescribe.observe ms distinct.2 distinct.1 h.inMembers)
      (by simpa [itemsOf] using h.inItems)
  | .null, _, .seen .., _, h | .bool _, _, .seen .., _, h | .number _, _, .seen .., _, h
  | .string _, _, .seen .., _, h =>
    h.concat _ (by simpa [object?] using h.inMembers) (by simpa [itemsOf] using h.inItems)

theorem ItemsDescribe.observe : (xs : List Value) → Value.ItemsDistinctKeys xs → ∀ {items es},
    ItemsDescribe items es → ItemsDescribe (observeItems xs items) (es ++ xs)
  | [], _, items, es, h => by simpa [observeItems] using h
  | x :: xs, distinct, items, es, h => by
    have before : Describes (items.getD blank) es := by
      rcases items with _ | s
      · have empty : es = [] := h
        rw [empty]
        exact describes_blank
      · exact h.2
    have here : ItemsDescribe (some (Shape.observe x (items.getD blank))) (es ++ [x]) :=
      ⟨by simp, before.observe x distinct.1⟩
    have rest := ItemsDescribe.observe xs distinct.2 here
    rwa [List.append_assoc] at rest

theorem MembersDescribe.observe : (ms : List (String × Value)) → Value.MembersDistinctKeys ms →
    (Object.keys ms).Nodup → ∀ {members under}, MembersDescribe members under →
    MembersDescribe (observeMembers ms members) fun k => under k ++ (Object.get? k ms).toList
  | [], _, _, members, under, h => by simpa [observeMembers] using h
  | (key, x) :: ms, distinct, nodup, members, under, h => by
    -- The key is not among the later ones, so each count goes up by one at most.
    obtain ⟨new, nodup⟩ := List.nodup_cons.mp nodup
    have here := h.observeMember key fun s vs described => described.observe x distinct.1
    have rest := MembersDescribe.observe ms distinct.2 nodup here
    have under_eq (k : String) : (under k ++ if k = key then [x] else []) ++
        (Object.get? k ms).toList = under k ++ (Object.get? k ((key, x) :: ms)).toList := by
      by_cases same : k = key
      · subst same
        simp [Object.get?, Object.get?_eq_none new]
      · simp [Object.get?, same, Ne.symm same]
    rwa [funext under_eq] at rest
end

/-- Documents are described by the shape that they are folded into. -/
theorem describes_ofDocuments {documents : List Snapshot}
    (distinct : ∀ d ∈ documents, (Value.object d.data).DistinctKeys) :
    Describes (ofDocuments documents) (documents.map fun d => .object d.data) := by
  induction documents using List.reverseRecOn with
  | nil => exact describes_blank
  | append_singleton documents d ih =>
    have before := ih fun d member => distinct d (List.mem_append_left _ member)
    have last := distinct d (List.mem_append_right _ List.mem_cons_self)
    rw [ofDocuments, List.foldl_append, List.map_append]
    exact before.observe _ last

end Observe

end DocumentMigration.Shape
