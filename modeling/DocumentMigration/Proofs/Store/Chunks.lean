import DocumentMigration.Store.Batch
import Mathlib.Algebra.Order.Floor.Div

/-! The sizes of the batches that some writes are cut into: all full but the last, which holds what
is left. Their number is the number of writes divided by the limit, rounded up. With the order of
the writes and their collection this leaves no choice: there is one way to cut a batch up. -/
namespace DocumentMigration

/-- Full pieces, and what is left if anything is. The items that are being filled count. -/
theorem map_length_pieces {size : Nat} {filling : List α} (room : filling.length < size)
    (xs : List α) :
    (pieces size filling xs).map List.length =
      List.replicate ((filling.length + xs.length) / size) size ++
        if (filling.length + xs.length) % size = 0 then []
        else [(filling.length + xs.length) % size] := by
  induction xs generalizing filling with
  | nil =>
    rw [pieces, List.length_nil, Nat.add_zero, Nat.div_eq_of_lt room, Nat.mod_eq_of_lt room]
    cases filling <;> simp
  | cons x rest ih =>
    have filled : (filling ++ [x]).length = filling.length + 1 := by simp
    rw [pieces, filled]
    split
    · next full =>
      have pos : 0 < size := Nat.zero_lt_of_lt room
      have total : filling.length + (x :: rest).length = rest.length + size := by
        rw [List.length_cons]
        omega
      have emptied : ([] : List α).length < size := pos
      rw [List.map_cons, filled, ih emptied, List.length_nil, Nat.zero_add, total,
        Nat.add_div_right _ pos, Nat.add_mod_right, List.replicate_succ, full, List.cons_append]
    · next short =>
      have total : (filling ++ [x]).length + rest.length = filling.length + (x :: rest).length := by
        rw [filled, List.length_cons]
        omega
      rw [ih (by omega), total]

namespace Batch

variable {b chunk : Batch} {limit : Nat}

theorem map_size_chunks (b : Batch) (limit : Nat) :
    (b.chunks limit).map size = List.replicate (b.size / max limit 1) (max limit 1) ++
      if b.size % max limit 1 = 0 then [] else [b.size % max limit 1] := by
  have pos : ([] : List Write).length < max limit 1 := lt_max_of_lt_right Nat.zero_lt_one
  have sizes := map_length_pieces pos b.writes
  rw [List.length_nil, Nat.zero_add] at sizes
  rw [chunks, List.map_map]
  exact sizes

theorem length_chunks (b : Batch) (limit : Nat) :
    (b.chunks limit).length = b.size ⌈/⌉ max limit 1 := by
  have pos : 0 < max limit 1 := by omega
  have counted := congrArg List.length (b.map_size_chunks limit)
  rw [List.length_map, List.length_append, List.length_replicate] at counted
  -- The number of writes is split into full batches and a rest that decides whether one is added.
  have whole := Nat.div_add_mod b.size (max limit 1)
  have less := Nat.mod_lt b.size pos
  rw [counted, Nat.ceilDiv_eq_add_pred_div]
  generalize b.size / max limit 1 = full, b.size % max limit 1 = rest at whole less ⊢
  split
  · next even =>
    have total : b.size + max limit 1 - 1 = max limit 1 * full + (max limit 1 - 1) := by omega
    rw [total, Nat.mul_add_div pos, Nat.div_eq_of_lt (by omega), List.length_nil]
  · next uneven =>
    have total : b.size + max limit 1 - 1 = max limit 1 * (full + 1) + (rest - 1) := by
      rw [Nat.mul_succ]
      omega
    rw [total, Nat.mul_add_div pos, Nat.div_eq_of_lt (by omega), List.length_singleton]

theorem size_of_mem_chunks (member : chunk ∈ b.chunks limit) :
    1 ≤ chunk.size ∧ chunk.size ≤ max limit 1 := by
  have pos : 0 < max limit 1 := by omega
  have listed : chunk.size ∈ (b.chunks limit).map size := List.mem_map_of_mem member
  rw [map_size_chunks, List.mem_append] at listed
  rcases listed with full | rest
  · rw [List.eq_of_mem_replicate full]
    omega
  · have less := Nat.mod_lt b.size pos
    split at rest
    · cases rest
    · rw [List.mem_singleton.mp rest]
      omega

/-- A single write goes into a batch of its own, whatever the limit. -/
theorem chunks_singleton (collection : String) (w : Write) (limit : Nat) :
    chunks ⟨collection, [w]⟩ limit = [⟨collection, [w]⟩] := by
  rw [chunks, pieces, List.nil_append, List.length_singleton]
  split <;> rfl

theorem flatMap_writes_chunks (b : Batch) (limit : Nat) :
    (b.chunks limit).flatMap writes = b.writes := by
  rw [chunks, List.flatMap_map, List.flatMap_id']
  exact flatten_pieces _ [] b.writes

theorem mem_of_mem_chunks {w : Write} (member : chunk ∈ b.chunks limit)
    (inChunk : w ∈ chunk.writes) : w ∈ b.writes := by
  rw [← flatMap_writes_chunks b limit]
  exact List.mem_flatMap.mpr ⟨chunk, member, inChunk⟩

/-- What it is for batches to share out the writes of another: in their order, and as many in each
as a limit allows. A limit of zero counts as one. -/
structure Partition (b : Batch) (limit : Nat) (parts : List Batch) : Prop where
  writes : parts.flatMap writes = b.writes
  collection : ∀ part ∈ parts, part.collection = b.collection
  nonempty : ∀ part ∈ parts, part.writes ≠ []
  full : ∀ part ∈ parts.dropLast, part.size = max limit 1
  last : ∀ part ∈ parts.getLast?, part.size ≤ max limit 1
  count : parts.length = b.size ⌈/⌉ max limit 1

section Partition

variable {parts parts' : List Batch}

theorem collection_of_mem_chunks (member : chunk ∈ b.chunks limit) :
    chunk.collection = b.collection := by
  obtain ⟨piece, -, rfl⟩ := List.mem_map.mp member
  rfl

/-- The rest stands last, so that what stands before the last batch is full. -/
theorem size_of_mem_dropLast_chunks (member : chunk ∈ (b.chunks limit).dropLast) :
    chunk.size = max limit 1 := by
  have listed := List.mem_map_of_mem (f := size) member
  rw [List.map_dropLast, map_size_chunks] at listed
  split at listed
  · rw [List.append_nil] at listed
    exact List.eq_of_mem_replicate (List.mem_of_mem_dropLast listed)
  · rw [List.dropLast_concat] at listed
    exact List.eq_of_mem_replicate listed

theorem partition_chunks (b : Batch) (limit : Nat) : b.Partition limit (b.chunks limit) where
  writes := flatMap_writes_chunks b limit
  collection _ := collection_of_mem_chunks
  nonempty _ member := List.ne_nil_of_length_pos (size_of_mem_chunks member).1
  full _ := size_of_mem_dropLast_chunks
  last _ member := (size_of_mem_chunks (List.mem_of_mem_getLast? member)).2
  count := length_chunks b limit

theorem Partition.sum_map_size (partition : b.Partition limit parts) :
    (parts.map size).sum = b.size := by
  rw [size, ← partition.writes, List.length_flatMap]
  rfl

/-- Only the size of the last batch is open, and the number of writes leaves no choice for it. -/
theorem Partition.map_size_eq (partition : b.Partition limit parts)
    (partition' : b.Partition limit parts') : parts.map size = parts'.map size := by
  have filled {front : List Batch} {last : Batch}
      (partition : b.Partition limit (front ++ [last])) :
      front.map size = List.replicate front.length (max limit 1) := by
    refine List.eq_replicate_iff.mpr ⟨List.length_map .., ?_⟩
    have full := partition.full
    rw [List.dropLast_concat] at full
    exact List.forall_mem_map.mpr full
  have sums := partition.sum_map_size.trans partition'.sum_map_size.symm
  have counts := partition.count.trans partition'.count.symm
  rcases List.eq_nil_or_concat' parts with rfl | ⟨front, last, rfl⟩
  · rw [List.length_eq_zero_iff.mp counts.symm]
  rcases List.eq_nil_or_concat' parts' with rfl | ⟨front', last', rfl⟩
  · rw [List.length_eq_zero_iff.mp counts]
  have same : front.length = front'.length := by simpa using counts
  rw [List.map_append, List.map_append, filled partition, filled partition', same] at sums ⊢
  simpa using sums

/-- Batches that share out the writes of another are told by their writes alone. -/
theorem Partition.eq_map (partition : b.Partition limit parts) :
    parts = (parts.map Batch.writes).map fun writes => { b with writes } := by
  have same : ∀ part ∈ parts, ({ b with writes := part.writes } : Batch) = part := by
    intro part member
    rw [← partition.collection part member]
  rw [List.map_map]
  exact ((List.map_congr_left same).trans (List.map_id' parts)).symm

theorem Partition.unique (partition : b.Partition limit parts)
    (partition' : b.Partition limit parts') : parts = parts' := by
  have written : parts.map Batch.writes = parts'.map Batch.writes := by
    refine List.eq_iff_flatten_eq.mpr ⟨?_, ?_⟩
    · rw [← List.flatMap_def, ← List.flatMap_def, partition.writes, partition'.writes]
    · rw [List.map_map, List.map_map]
      exact partition.map_size_eq partition'
  rw [partition.eq_map, partition'.eq_map, written]

/-- The batches of at most `limit` writes that the writes of a batch are cut into share them out,
and nothing else does. -/
theorem partition_iff_eq_chunks (b : Batch) (limit : Nat) (parts : List Batch) :
    b.Partition limit parts ↔ parts = b.chunks limit := by
  constructor
  · intro partition
    exact partition.unique (b.partition_chunks limit)
  · rintro rfl
    exact b.partition_chunks limit

end Partition

end Batch

end DocumentMigration
