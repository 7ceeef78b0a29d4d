import DocumentMigration.Schema.Merge
import DocumentMigration.Proofs.Json.Object
import DocumentMigration.Proofs.Json.Parser

/-!
Values that differ in the order of keys only. The compact texts of their sorted forms are equal, and
those of all other values differ.
-/
namespace DocumentMigration.Json.Value

/-- The same value up to the order of the members of its objects. Numbers are compared as they are
written, so an integer is no float, and the zeros are two. -/
inductive Reordered : Value → Value → Prop
  | refl (v) : Reordered v v
  | trans {u v w} : Reordered u v → Reordered v w → Reordered u w
  | members {ms ns} : ms.Perm ns → Reordered (.object ms) (.object ns)
  | item {x y} (before after) : Reordered x y →
      Reordered (.array (before ++ x :: after)) (.array (before ++ y :: after))
  | member {x y} (key before after) : Reordered x y →
      Reordered (.object (before ++ (key, x) :: after)) (.object (before ++ (key, y) :: after))

section Lists

variable {xs : List Value} {ms : List (String × Value)}

theorem sortedItems_eq_map (xs : List Value) : sortedItems xs = xs.map sorted := by
  induction xs with
  | nil => rfl
  | cons x xs ih => rw [sortedItems, ih, List.map_cons]

theorem sortedMembers_eq_map (ms : List (String × Value)) :
    sortedMembers ms = ms.map fun m => (m.1, m.2.sorted) := by
  induction ms with
  | nil => rfl
  | cons m ms ih => rw [sortedMembers, ih, List.map_cons]

theorem perm_ofList_sortedMembers (distinct : (Object.keys ms).Nodup) :
    (Object.ofList (sortedMembers ms)).Perm (sortedMembers ms) := by
  refine Object.perm_ofList ?_
  rw [sortedMembers_eq_map, Object.keys, List.map_map]
  exact distinct

end Lists

section Sorted

mutual
theorem canonical_sorted : (v : Value) → v.sorted.Canonical
  | .null | .bool _ | .number _ | .string _ => trivial
  | .array xs => canonicalItems_sorted xs
  | .object ms => by
    refine ⟨Object.sorted_ofList _, canonicalMembers_iff.mpr fun m member => ?_⟩
    exact canonicalMembers_iff.mp (canonicalMembers_sorted ms) m (Object.mem_ofList member)

theorem canonicalItems_sorted : (xs : List Value) → CanonicalItems (sortedItems xs)
  | [] => trivial
  | x :: xs => ⟨canonical_sorted x, canonicalItems_sorted xs⟩

theorem canonicalMembers_sorted : (ms : List (String × Value)) → CanonicalMembers (sortedMembers ms)
  | [] => trivial
  | (_, x) :: ms => ⟨canonical_sorted x, canonicalMembers_sorted ms⟩
end

/-- Different values have different texts: with floats read exactly, a text gives back its value. -/
theorem compact_injective {v w : Value} (left : v.Canonical) (right : w.Canonical)
    (same : v.compact = w.compact) : v = w := by
  let reader : FloatReader := .exact
  have steady := steady_of_faithful FloatReader.faithful_exact
  have read := ofText?_compact (max v.depth w.depth) left
  rw [same, ofText?_compact _ right, if_pos (le_max_left _ _), if_pos (le_max_right _ _),
    steady v, steady w] at read
  exact (Option.some.inj read).symm

end Sorted

namespace Reordered

variable {v w : Value}

theorem symm (h : Reordered v w) : Reordered w v := by
  induction h with
  | refl v => exact .refl v
  | trans _ _ left right => exact right.trans left
  | members perm => exact .members perm.symm
  | item before after _ ih => exact .item before after ih
  | member key before after _ ih => exact .member key before after ih

theorem distinctKeys (h : Reordered v w) (distinct : v.DistinctKeys) : w.DistinctKeys := by
  induction h with
  | refl => exact distinct
  | trans _ _ left right => exact right (left distinct)
  | members perm =>
    refine ⟨(perm.map _).nodup_iff.mp distinct.1, membersDistinctKeys_iff.mpr fun m member => ?_⟩
    exact membersDistinctKeys_iff.mp distinct.2 m (perm.mem_iff.mpr member)
  | item before after _ ih =>
    rw [DistinctKeys, itemsDistinctKeys_iff, List.forall_mem_append, List.forall_mem_cons] at *
    exact ⟨distinct.1, ih distinct.2.1, distinct.2.2⟩
  | member key before after _ ih =>
    rw [DistinctKeys, membersDistinctKeys_iff, List.forall_mem_append, List.forall_mem_cons] at *
    refine ⟨?_, distinct.2.1, ih distinct.2.2.1, distinct.2.2.2⟩
    simpa [Object.keys] using distinct.1

theorem sorted_eq (h : Reordered v w) (distinct : v.DistinctKeys) : v.sorted = w.sorted := by
  induction h with
  | refl => rfl
  | trans first _ left right => exact (left distinct).trans (right (first.distinctKeys distinct))
  | @members ms ns perm =>
    have left := perm_ofList_sortedMembers distinct.1
    have right := perm_ofList_sortedMembers ((perm.map _).nodup_iff.mp distinct.1)
    have between : (sortedMembers ms).Perm (sortedMembers ns) := by
      rw [sortedMembers_eq_map, sortedMembers_eq_map]
      exact perm.map _
    exact congrArg Value.object ((Object.sorted_ofList _).eq_of_perm (Object.sorted_ofList _)
      (left.trans (between.trans right.symm)))
  | item before after _ ih =>
    rw [DistinctKeys, itemsDistinctKeys_iff, List.forall_mem_append, List.forall_mem_cons]
      at distinct
    simp [sorted, sortedItems_eq_map, ih distinct.2.1]
  | member key before after _ ih =>
    rw [DistinctKeys, membersDistinctKeys_iff, List.forall_mem_append, List.forall_mem_cons]
      at distinct
    simp [sorted, sortedMembers_eq_map, ih distinct.2.2.1]

end Reordered

mutual
/-- The sorted form of a value is a reordering of it. -/
theorem reordered_sorted : (v : Value) → v.DistinctKeys → Reordered v v.sorted
  | .null, _ | .bool _, _ | .number _, _ | .string _, _ => .refl _
  | .array xs, distinct => reordered_sortedItems [] xs distinct
  | .object ms, distinct => by
    have placed := perm_ofList_sortedMembers distinct.1
    exact (reordered_sortedMembers [] ms distinct.2).trans (.members placed.symm)

theorem reordered_sortedItems (done : List Value) : (xs : List Value) → ItemsDistinctKeys xs →
    Reordered (.array (done ++ xs)) (.array (done ++ sortedItems xs))
  | [], _ => .refl _
  | x :: xs, distinct => by
    have rest := reordered_sortedItems (done ++ [x.sorted]) xs distinct.2
    rw [List.append_assoc, List.append_assoc] at rest
    exact (Reordered.item done xs (reordered_sorted x distinct.1)).trans rest

theorem reordered_sortedMembers (done : List (String × Value)) : (ms : List (String × Value)) →
    MembersDistinctKeys ms →
    Reordered (.object (done ++ ms)) (.object (done ++ sortedMembers ms))
  | [], _ => .refl _
  | (key, x) :: ms, distinct => by
    have rest := reordered_sortedMembers (done ++ [(key, x.sorted)]) ms distinct.2
    rw [List.append_assoc, List.append_assoc] at rest
    exact (Reordered.member key done ms (reordered_sorted x distinct.1)).trans rest
end

/-- The texts of the sorted forms agree for reorderings of one value, and for them only. -/
theorem compact_sorted_eq_iff {v w : Value} (left : v.DistinctKeys) (right : w.DistinctKeys) :
    v.sorted.compact = w.sorted.compact ↔ Reordered v w := by
  constructor
  · intro same
    have sorted := compact_injective v.canonical_sorted w.canonical_sorted same
    exact (reordered_sorted v left).trans (sorted ▸ (reordered_sorted w right).symm)
  · intro reordered
    rw [reordered.sorted_eq left]

end DocumentMigration.Json.Value
