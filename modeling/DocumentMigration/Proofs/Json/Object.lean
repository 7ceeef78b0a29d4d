import DocumentMigration.Json.Object
import Mathlib.Data.List.Induction
import Mathlib.Data.List.Nodup
import Mathlib.Data.List.Perm.Basic
import Mathlib.Data.String.Basic

/-!
Objects with one member for every key. In the order of their keys the members make the same object
whatever order they came in.
-/
namespace DocumentMigration.Json

namespace Object

variable {key : String} {value : Value} {ms ns : Object} {members : List (String × Value)}

theorem Sorted.nodup (sorted : Sorted ms) : (keys ms).Nodup := List.Pairwise.imp ne_of_lt sorted

theorem get?_eq_none (absent : key ∉ keys ms) : get? key ms = none := by
  induction ms with
  | nil => rfl
  | cons m rest ih =>
    obtain ⟨other, absent⟩ := not_or.mp (mt List.mem_cons.mpr absent)
    rw [get?, if_neg (Ne.symm other), ih absent]

theorem mem_of_get? (found : get? key ms = some value) : (key, value) ∈ ms := by
  induction ms with
  | nil => cases found
  | cons m rest ih =>
    obtain ⟨k, v⟩ := m
    rw [get?] at found
    split at found
    · next same =>
      cases found
      exact same ▸ List.mem_cons_self
    · exact List.mem_cons_of_mem _ (ih found)

theorem get?_of_mem (distinct : (keys ms).Nodup) (member : (key, value) ∈ ms) :
    get? key ms = some value := by
  induction ms with
  | nil => cases member
  | cons m rest ih =>
    obtain ⟨k, v⟩ := m
    obtain ⟨new, distinct⟩ := List.nodup_cons.mp distinct
    rcases List.mem_cons.mp member with same | member
    · cases same
      exact if_pos rfl
    · have apart : k ≠ key := by
        rintro rfl
        exact new (List.mem_map.mpr ⟨_, member, rfl⟩)
      rw [get?, if_neg apart, ih distinct member]

theorem isSome_get? : (get? key ms).isSome ↔ key ∈ keys ms := by
  induction ms with
  | nil => simp [keys]
  | cons m ms ih =>
    obtain ⟨k, v⟩ := m
    rw [get?, keys, List.map_cons, List.mem_cons]
    split
    · next same => simp [same]
    · next other => rw [ih, or_iff_right (Ne.symm other), keys]

theorem Sorted.insert (sorted : Sorted ms) : Sorted (ms.insert key value) := by
  induction ms with
  | nil => exact List.pairwise_singleton _ _
  | cons m rest ih =>
    obtain ⟨k, v⟩ := m
    obtain ⟨above, ordered⟩ := List.pairwise_cons.mp sorted
    rw [Object.insert]
    split
    · next same => exact List.pairwise_cons.mpr ⟨same ▸ above, ordered⟩
    · next other =>
      split
      · next less =>
        refine List.pairwise_cons.mpr ⟨List.forall_mem_cons.mpr ⟨less, fun k' member => ?_⟩, sorted⟩
        exact lt_trans less (above k' member)
      · next notLess =>
        refine List.pairwise_cons.mpr ⟨fun k' member => ?_, ih ordered⟩
        obtain ⟨m, inserted, rfl⟩ := List.mem_map.mp member
        rcases mem_insert inserted with rfl | old
        · exact lt_of_le_of_ne (not_lt.mp notLess) (Ne.symm other)
        · exact above m.1 (List.mem_map_of_mem old)

theorem perm_insert (new : key ∉ keys ms) : (ms.insert key value).Perm ((key, value) :: ms) := by
  induction ms with
  | nil => exact .refl _
  | cons m rest ih =>
    obtain ⟨k, v⟩ := m
    have other : key ≠ k := fun same => new (same ▸ List.mem_cons_self)
    rw [Object.insert, if_neg other]
    split
    · exact .refl _
    · have rest := ih fun old => new (List.mem_cons_of_mem k old)
      exact (rest.cons (k, v)).trans (.swap _ _ _)

theorem ofList_append_singleton (members : List (String × Value)) (m : String × Value) :
    ofList (members ++ [m]) = insert m.1 m.2 (ofList members) := by
  rw [ofList, List.foldl_append]
  rfl

theorem get?_insert (key k : String) (value : Value) (ms : Object) :
    get? k (insert key value ms) = if key = k then some value else get? k ms := by
  by_cases same : key = k
  · rw [if_pos same, ← same, get?_insert_self]
  · rw [if_neg same, get?_insert_of_ne value ms (Ne.symm same)]

theorem get?_erase (key k : String) (ms : Object) :
    get? k (erase key ms) = if key = k then none else get? k ms := by
  by_cases same : key = k
  · rw [if_pos same, ← same, get?_erase_self]
  · rw [if_neg same, get?_erase_of_ne ms (Ne.symm same)]

/-- Of members with one key the last is found. -/
theorem get?_ofList (key : String) (members : List (String × Value)) :
    get? key (ofList members) = get? key members.reverse := by
  induction members using List.reverseRecOn with
  | nil => rfl
  | append_singleton members m ih =>
    rw [ofList_append_singleton, get?_insert, List.reverse_append, List.reverse_singleton,
      List.singleton_append, get?, ih]

theorem mem_ofList {m : String × Value} (member : m ∈ ofList members) : m ∈ members := by
  induction members using List.reverseRecOn with
  | nil => cases member
  | append_singleton members last ih =>
    rw [ofList_append_singleton] at member
    rw [List.mem_append, List.mem_singleton]
    exact (mem_insert member).symm.imp_left ih

theorem sorted_ofList (members : List (String × Value)) : Sorted (ofList members) := by
  induction members using List.reverseRecOn with
  | nil => exact .nil
  | append_singleton members m ih =>
    rw [ofList_append_singleton]
    exact ih.insert

theorem perm_ofList (distinct : (keys members).Nodup) : (ofList members).Perm members := by
  induction members using List.reverseRecOn with
  | nil => exact .refl _
  | append_singleton members m ih =>
    have swapped := (List.perm_append_singleton m members).map (·.1)
    obtain ⟨new, distinct⟩ := List.nodup_cons.mp (swapped.nodup_iff.mp distinct)
    have placed := ih distinct
    rw [ofList_append_singleton]
    refine (perm_insert fun old => new ((placed.map _).mem_iff.mp old)).trans ?_
    exact (placed.cons m).trans (List.perm_append_singleton m members).symm

/-- An object has its members in one order only. -/
theorem Sorted.eq_of_perm (left : Sorted ms) (right : Sorted ns) (perm : ms.Perm ns) : ms = ns :=
  perm.eq_of_pairwise (fun _ _ _ _ less greater => absurd less (lt_asymm greater))
    (List.pairwise_map.mp left) (List.pairwise_map.mp right)

theorem Sorted.erase (sorted : Sorted ms) : Sorted (ms.erase key) :=
  List.Pairwise.sublist (List.filter_sublist.map _) sorted

/-- An object is what is found in it. -/
theorem Sorted.ext (left : Sorted ms) (right : Sorted ns)
    (same : ∀ key, get? key ms = get? key ns) : ms = ns := by
  have found {os : Object} (sorted : Sorted os) (m : String × Value) :
      m ∈ os ↔ get? m.1 os = some m.2 :=
    ⟨get?_of_mem sorted.nodup, mem_of_get?⟩
  have distinct {os : Object} (sorted : Sorted os) : os.Nodup := List.Nodup.of_map _ sorted.nodup
  refine left.eq_of_perm right ?_
  refine (List.perm_ext_iff_of_nodup (distinct left) (distinct right)).mpr fun m => ?_
  rw [found left, found right, same]

theorem Sorted.insert_eq_self (sorted : Sorted ms) (found : get? key ms = some value) :
    ms.insert key value = ms := by
  refine sorted.insert.ext sorted fun k => ?_
  rw [get?_insert]
  split
  · next same => rw [← same, found]
  · rfl

section Apart

variable {other : String} {x y : Value} (sorted : Sorted ms) (apart : key ≠ other)
include sorted apart

theorem Sorted.insert_insert :
    (ms.insert other y).insert key x = (ms.insert key x).insert other y := by
  refine sorted.insert.insert.ext sorted.insert.insert fun k => ?_
  simp only [get?_insert]
  split_ifs with first second
  · exact absurd (first.trans second.symm) apart
  · rfl
  · rfl
  · rfl

theorem Sorted.insert_erase : (ms.erase other).insert key x = (ms.insert key x).erase other := by
  refine sorted.erase.insert.ext sorted.insert.erase fun k => ?_
  simp only [get?_insert, get?_erase]
  split_ifs with first second
  · exact absurd (first.trans second.symm) apart
  · rfl
  · rfl
  · rfl

end Apart

theorem erase_erase (key other : String) (ms : Object) :
    (ms.erase other).erase key = (ms.erase key).erase other :=
  List.filter_comm _ _ ms

theorem Sorted.ofList (sorted : Sorted ms) : Object.ofList ms = ms :=
  (sorted_ofList ms).eq_of_perm sorted (perm_ofList sorted.nodup)

/-- Options in the order of their keys are the members that they hold. -/
theorem ofOptions_of_sorted {options : List (String × Option Value)}
    (sorted : (options.map (·.1)).Pairwise (· < ·)) :
    ofOptions options = options.filterMap fun (k, v) => v.map (k, ·) := by
  apply Sorted.ofList
  apply List.pairwise_map.mpr
  apply (List.pairwise_map.mp sorted).filterMap
  rintro ⟨k, v⟩ ⟨l, w⟩ less m first n second
  obtain ⟨x, rfl, rfl⟩ := Option.map_eq_some_iff.mp first
  obtain ⟨y, rfl, rfl⟩ := Option.map_eq_some_iff.mp second
  exact less

theorem get?_ofOptions {options : List (String × Option Value)} {v : Option Value}
    (sorted : (options.map (·.1)).Pairwise (· < ·)) (listed : (key, v) ∈ options) :
    get? key (ofOptions options) = v := by
  have unique {w : Option Value} (again : (key, w) ∈ options) : v = w :=
    congrArg Prod.snd (List.inj_on_of_nodup_map (sorted.imp ne_of_lt) listed again rfl)
  rw [ofOptions_of_sorted sorted]
  rcases v with _ | v
  · refine get?_eq_none fun member => ?_
    obtain ⟨m, inside, rfl⟩ := List.mem_map.mp member
    obtain ⟨⟨k, w⟩, again, kept⟩ := List.mem_filterMap.mp inside
    obtain ⟨w, rfl, rfl⟩ := Option.map_eq_some_iff.mp kept
    cases unique again
  · refine get?_of_mem ?_ (List.mem_filterMap.mpr ⟨_, listed, rfl⟩)
    rw [← ofOptions_of_sorted sorted]
    exact (sorted_ofList _).nodup

end Object

namespace Value

mutual
/-- No object in a value has a key twice. -/
def DistinctKeys : Value → Prop
  | .array xs => ItemsDistinctKeys xs
  | .object ms => (Object.keys ms).Nodup ∧ MembersDistinctKeys ms
  | _ => True

def ItemsDistinctKeys : List Value → Prop
  | [] => True
  | x :: xs => DistinctKeys x ∧ ItemsDistinctKeys xs

def MembersDistinctKeys : List (String × Value) → Prop
  | [] => True
  | (_, x) :: ms => DistinctKeys x ∧ MembersDistinctKeys ms
end

variable {xs : List Value} {ms : List (String × Value)}

theorem itemsDistinctKeys_iff : ItemsDistinctKeys xs ↔ ∀ x ∈ xs, x.DistinctKeys := by
  induction xs with
  | nil => simp [ItemsDistinctKeys]
  | cons x xs ih => simp [ItemsDistinctKeys, ih]

theorem membersDistinctKeys_iff : MembersDistinctKeys ms ↔ ∀ m ∈ ms, m.2.DistinctKeys := by
  induction ms with
  | nil => simp [MembersDistinctKeys]
  | cons m ms ih => simp only [MembersDistinctKeys, ih, List.forall_mem_cons]

end Value

end DocumentMigration.Json
