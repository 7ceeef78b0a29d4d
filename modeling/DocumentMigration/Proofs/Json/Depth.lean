import DocumentMigration.Json.Value

/-! How deep values are nested, in terms of what is directly in them. -/
namespace DocumentMigration.Json.Value

variable {depth : Nat}

theorem itemsDepth_le_iff {xs : List Value} :
    itemsDepth xs ≤ depth ↔ ∀ x ∈ xs, x.depth ≤ depth := by
  induction xs with
  | nil => simp [itemsDepth]
  | cons x xs ih => rw [itemsDepth, Nat.max_le, ih, List.forall_mem_cons]

theorem membersDepth_le_iff {ms : List (String × Value)} :
    membersDepth ms ≤ depth ↔ ∀ m ∈ ms, m.2.depth ≤ depth := by
  induction ms with
  | nil => simp [membersDepth]
  | cons m ms ih => rw [membersDepth, Nat.max_le, ih, List.forall_mem_cons]

theorem depth_lt_array {xs : List Value} {x : Value} (member : x ∈ xs) :
    x.depth < (array xs).depth :=
  Nat.lt_succ_of_le (itemsDepth_le_iff.mp (Nat.le_refl _) x member)

theorem depth_lt_object {ms : List (String × Value)} {m : String × Value} (member : m ∈ ms) :
    m.2.depth < (object ms).depth :=
  Nat.lt_succ_of_le (membersDepth_le_iff.mp (Nat.le_refl _) m member)

end DocumentMigration.Json.Value
