import DocumentMigration.Change.Row
import DocumentMigration.Proofs.Change.Summary
import Mathlib.Algebra.GroupWithZero.Nat

/-!
A summary counts every change once: its groups are told apart by their keys, stand in the order in
which the keys come up, and hold the ids of all changes of their key. Summarizing further changes
lengthens these groups and adds the new ones behind them.
-/
namespace DocumentMigration

namespace ChangeGroup

/-- The key of the changes of a group, read off the shape that the group has from its first one. -/
def key (g : ChangeGroup) : String :=
  g.change.operation.name ++ "_" ++ g.change.collection ++ "_" ++
    String.intercalate "," (g.change.changes.map (·.path))

/-- Further changes put into a group, those that have its key. -/
def extendAll (g : ChangeGroup) (changes : List DocumentChange) : ChangeGroup :=
  { g with documentIds := g.documentIds ++
      (changes.filter (·.groupKey = g.key)).map (·.documentId) }

/-- The group of some changes that a first one stands for. -/
def ofFirst (changes : List DocumentChange) (first : DocumentChange) : ChangeGroup :=
  ofMembers first (changes.filter (·.groupKey = first.groupKey))

variable {changes : List DocumentChange} {first : DocumentChange}

@[simp]
theorem key_ofFirst : (ofFirst changes first).key = first.groupKey := rfl

theorem ofFirst_append (later : List DocumentChange) :
    ofFirst (changes ++ later) first = (ofFirst changes first).extendAll later := by
  have key : (ofMembers first (changes.filter (·.groupKey = first.groupKey))).key =
    first.groupKey := rfl
  rw [ofFirst, ofFirst, extendAll, key, List.filter_append]
  simp [ofMembers]

theorem ofFirst_append_of_new {earlier : List DocumentChange}
    (new : first.groupKey ∉ earlier.map (·.groupKey)) :
    ofFirst (earlier ++ changes) first = ofFirst changes first := by
  have unkeyed : earlier.filter (·.groupKey = first.groupKey) = [] := by
    refine List.filter_eq_nil_iff.mpr fun c member same => new ?_
    rw [← of_decide_eq_true same]
    exact List.mem_map_of_mem member
  rw [ofFirst, List.filter_append, unkeyed, List.nil_append, ofFirst]

/-- A group as it is kept while changes are put into it, beside its key. -/
def entry (first : DocumentChange) (members : List DocumentChange) : String × ChangeGroup :=
  (first.groupKey, ofMembers first members)

theorem keyed_eq_map (changes : List DocumentChange) :
    keyed changes = (firsts (·.groupKey) changes).map fun first =>
      entry first (changes.filter (·.groupKey = first.groupKey)) := by
  have placed : keyed changes = (firsts (·.groupKey) changes).map fun first =>
      entry first ((changes.filter (first.groupKey = ·.groupKey)).map fun c => c) := by
    simp only [keyed, add_eq_place]
    apply foldl_place _ _ _ fun c => c
    · intro first members c
      rfl
    · intro first members c
      simp [entry, extend, ofMembers]
    · intro c
      rfl
  rw [placed]
  refine List.map_congr_left fun first _ => ?_
  simp only [List.map_id', eq_comm]

end ChangeGroup

open ChangeGroup

theorem summarize_eq_map (changes : List DocumentChange) :
    summarize changes = (firsts (·.groupKey) changes).map (ofFirst changes) := by
  rw [summarize, keyed_eq_map, List.map_map]
  rfl

theorem map_key_summarize (changes : List DocumentChange) :
    (summarize changes).map (·.key) = (firsts (·.groupKey) changes).map (·.groupKey) := by
  rw [summarize_eq_map, List.map_map]
  rfl

/-- Summarizing further changes lengthens the groups there are, and puts the new ones behind. -/
theorem summarize_append (earlier later : List DocumentChange) :
    summarize (earlier ++ later) =
      (summarize earlier).map (·.extendAll later) ++
        (summarize later).filter fun g => g.key ∉ (summarize earlier).map (·.key) := by
  have known (first : DocumentChange) : first.groupKey ∈ (summarize earlier).map (·.key) ↔
      first.groupKey ∈ earlier.map (·.groupKey) := by
    rw [map_key_summarize]
    exact mem_map_firsts
  rw [summarize_eq_map (earlier ++ later), firsts_append, List.map_append]
  congr 1
  · rw [summarize_eq_map earlier, List.map_map]
    exact List.map_congr_left fun first _ => ofFirst_append later
  · rw [summarize_eq_map later, List.filter_map]
    simp only [Function.comp_def, key_ofFirst, known]
    refine List.map_congr_left fun first member => ofFirst_append_of_new ?_
    simpa using (List.mem_filter.mp member).2

/-- What the groups of a summary are. -/
structure Summarizes (changes : List DocumentChange) (groups : List ChangeGroup) : Prop where
  nonempty : ∀ g ∈ groups, g.documentIds ≠ []
  distinct : (groups.map (·.key)).Nodup
  ordered : groups.map (·.key) = (changes.map (·.groupKey)).eraseDups
  ids : ∀ g ∈ groups,
    g.documentIds = (changes.filter (·.groupKey = g.key)).map (·.documentId)
  first : ∀ g ∈ groups, ∃ c, changes.find? (·.groupKey = g.key) = some c ∧
    g.change = c.shape ∧ g.collection = c.collection

theorem summarizes_summarize (changes : List DocumentChange) :
    Summarizes changes (summarize changes) where
  nonempty := by
    rw [summarize_eq_map]
    refine List.forall_mem_map.mpr fun first member empty => ?_
    have own : first ∈ changes.filter (·.groupKey = first.groupKey) :=
      List.mem_filter.mpr ⟨(firsts_sublist _ _).subset member, by simp⟩
    exact List.ne_nil_of_mem own (List.map_eq_nil_iff.mp empty)
  distinct := by
    rw [map_key_summarize]
    exact nodup_map_firsts _ _
  ordered := by
    rw [map_key_summarize, map_firsts]
  ids := by
    rw [summarize_eq_map]
    exact List.forall_mem_map.mpr fun first _ => rfl
  first := by
    rw [summarize_eq_map]
    exact List.forall_mem_map.mpr fun first member => ⟨first, find?_of_mem_firsts member, rfl, rfl⟩

/-- The ids of all groups are the ids of the changes. -/
theorem perm_flatMap_documentIds (changes : List DocumentChange) :
    ((summarize changes).flatMap (·.documentIds)).Perm (changes.map (·.documentId)) :=
  (groups_summarize changes).perm_flatMap fun _ _ => rfl

theorem sum_count_summarize (changes : List DocumentChange) :
    ((summarize changes).map fun g => g.row.count).sum = changes.length := by
  have counted := (perm_flatMap_documentIds changes).length_eq
  rwa [List.length_flatMap, List.length_map] at counted

/-- A summary has every change in one group, and grows with the changes. -/
theorem summarize_keeps_every_change (changes : List DocumentChange) :
    Summarizes changes (summarize changes) ∧
      ((summarize changes).flatMap (·.documentIds)).Perm (changes.map (·.documentId)) ∧
      ((summarize changes).map fun g => g.row.count).sum = changes.length ∧
      ∀ later, summarize (changes ++ later) =
        (summarize changes).map (·.extendAll later) ++
          (summarize later).filter fun g => g.key ∉ (summarize changes).map (·.key) :=
  ⟨summarizes_summarize changes, perm_flatMap_documentIds changes, sum_count_summarize changes,
    summarize_append changes⟩

end DocumentMigration
