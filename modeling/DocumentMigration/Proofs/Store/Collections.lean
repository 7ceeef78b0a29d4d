import DocumentMigration.Proofs.Store.Settle

/-! Batches on collections by themselves, without the counters of a store around them. Batches of
one collection that together name each document once revise that collection and nothing else,
however the writes are cut into batches. -/
namespace DocumentMigration

namespace Collections

variable {collection other : String} {documents : List Snapshot} {cs cs' : Collections}

@[simp] theorem documents_cons_self (cs : Collections) :
    Collections.documents collection ((collection, documents) :: cs) = documents := by
  simp [Collections.documents]

theorem documents_cons_of_ne (cs : Collections) (different : other ≠ collection) :
    Collections.documents collection ((other, documents) :: cs) =
      Collections.documents collection cs := by
  have elsewhere : (collection == other) = false := by simpa using Ne.symm different
  simp [Collections.documents, List.lookup_cons, elsewhere]

/-- Revises each document of a collection by itself. A collection that is not there stays absent. -/
def revise (collection : String) (f : Snapshot → Option Snapshot) (cs : Collections) :
    Collections :=
  match cs with
  | [] => []
  | (name, documents) :: rest =>
    if name = collection then (name, documents.filterMap f) :: rest
    else (name, documents) :: revise collection f rest

theorem revise_cons_self (f : Snapshot → Option Snapshot) (cs : Collections) :
    revise collection f ((collection, documents) :: cs) =
      (collection, documents.filterMap f) :: cs := by
  rw [revise, if_pos rfl]

theorem revise_cons_of_ne (f : Snapshot → Option Snapshot) (cs : Collections)
    (different : other ≠ collection) :
    revise collection f ((other, documents) :: cs) =
      (other, documents) :: revise collection f cs := by
  rw [revise, if_neg different]

@[simp] theorem documents_revise_self (f : Snapshot → Option Snapshot) :
    (cs.revise collection f).documents collection = (cs.documents collection).filterMap f := by
  induction cs with
  | nil => rfl
  | cons entry cs ih =>
    obtain ⟨name, old⟩ := entry
    by_cases same : name = collection
    · subst same
      rw [revise_cons_self, documents_cons_self, documents_cons_self]
    · rw [revise_cons_of_ne f cs same, documents_cons_of_ne _ same, documents_cons_of_ne _ same, ih]

theorem documents_revise_of_ne (f : Snapshot → Option Snapshot) (different : other ≠ collection) :
    (cs.revise collection f).documents other = cs.documents other := by
  induction cs with
  | nil => rfl
  | cons entry cs ih =>
    obtain ⟨name, old⟩ := entry
    by_cases same : name = collection
    · subst same
      have apart : name ≠ other := Ne.symm different
      rw [revise_cons_self, documents_cons_of_ne _ apart, documents_cons_of_ne _ apart]
    · rw [revise_cons_of_ne f cs same]
      by_cases found : name = other
      · subst found
        rw [documents_cons_self, documents_cons_self]
      · rw [documents_cons_of_ne _ found, documents_cons_of_ne _ found, ih]

@[simp] theorem revise_some : cs.revise collection some = cs := by
  induction cs with
  | nil => rfl
  | cons entry cs ih =>
    obtain ⟨name, old⟩ := entry
    by_cases same : name = collection <;> simp [revise, same, ih]

theorem revise_revise (f g : Snapshot → Option Snapshot) :
    (cs.revise collection f).revise collection g = cs.revise collection fun d => (f d).bind g := by
  induction cs with
  | nil => rfl
  | cons entry cs ih =>
    obtain ⟨name, old⟩ := entry
    by_cases same : name = collection
    · simp [revise, same, List.filterMap_filterMap]
    · simp [revise, same, ih]

theorem revise_congr {f g : Snapshot → Option Snapshot}
    (alike : ∀ d ∈ cs.documents collection, f d = g d) :
    cs.revise collection f = cs.revise collection g := by
  induction cs with
  | nil => rfl
  | cons entry cs ih =>
    obtain ⟨name, old⟩ := entry
    by_cases same : name = collection
    · subst same
      rw [documents_cons_self] at alike
      rw [revise_cons_self, revise_cons_self, List.filterMap_congr alike]
    · rw [documents_cons_of_ne cs same] at alike
      rw [revise_cons_of_ne f cs same, revise_cons_of_ne g cs same, ih alike]

@[simp] theorem documents_put_self :
    (cs.put collection documents).documents collection = documents := by
  induction cs with
  | nil => exact documents_cons_self []
  | cons entry cs ih =>
    obtain ⟨name, old⟩ := entry
    by_cases same : name = collection
    · subst same
      rw [put, if_pos rfl, documents_cons_self]
    · rw [put, if_neg same, documents_cons_of_ne _ same, ih]

theorem documents_put_of_ne (different : other ≠ collection) :
    (cs.put collection documents).documents other = cs.documents other := by
  induction cs with
  | nil => exact documents_cons_of_ne [] (Ne.symm different)
  | cons entry cs ih =>
    obtain ⟨name, old⟩ := entry
    by_cases same : name = collection
    · subst same
      have apart : name ≠ other := Ne.symm different
      rw [put, if_pos rfl, documents_cons_of_ne _ apart, documents_cons_of_ne _ apart]
    · rw [put, if_neg same]
      by_cases found : name = other
      · subst found
        rw [documents_cons_self, documents_cons_self]
      · rw [documents_cons_of_ne _ found, documents_cons_of_ne _ found, ih]

/-- Putting documents worked out one by one revises a collection, if it holds any. -/
theorem put_filterMap (f : Snapshot → Option Snapshot) (present : cs.documents collection ≠ []) :
    cs.put collection ((cs.documents collection).filterMap f) = cs.revise collection f := by
  induction cs with
  | nil => simp [Collections.documents] at present
  | cons entry cs ih =>
    obtain ⟨name, old⟩ := entry
    by_cases same : name = collection
    · subst same
      rw [documents_cons_self, put, if_pos rfl, revise_cons_self]
    · rw [documents_cons_of_ne cs same] at present ⊢
      rw [put, if_neg same, revise_cons_of_ne f cs same, ih present]

/-- The collections after a batch, or why it is refused. -/
def commit (batch : Batch) (cs : Collections) : Except StoreError Collections :=
  (MemoryStore.stage batch (cs.documents batch.collection)).map (cs.put batch.collection ·)

/-- The collections after batches one after another, all of them accepted. -/
def commitAll (batches : List Batch) (cs : Collections) : Except StoreError Collections :=
  batches.foldlM (fun cs batch => cs.commit batch) cs

theorem commitAll_cons (batch : Batch) (batches : List Batch) (cs : Collections) :
    cs.commitAll (batch :: batches) = (cs.commit batch).bind fun cs => cs.commitAll batches := by
  rw [commitAll, List.foldlM_cons]
  rfl

theorem commitAll_cons_eq_ok_iff {batch : Batch} {batches : List Batch} :
    cs.commitAll (batch :: batches) = .ok cs' ↔
      ∃ next, cs.commit batch = .ok next ∧ next.commitAll batches = .ok cs' := by
  rw [commitAll_cons]
  cases cs.commit batch <;> simp [Except.bind]

end Collections


namespace Collections

variable {collection : String} {cs : Collections} {writes : List Write}

theorem commit_eq_ok (nonempty : writes ≠ []) (unique : UniqueIds (cs.documents collection))
    (targeted : Targeted writes (cs.documents collection)) :
    cs.commit ⟨collection, writes⟩ = .ok (cs.revise collection (settle writes)) := by
  have present : cs.documents collection ≠ [] := by
    obtain ⟨w, member⟩ := List.exists_mem_of_ne_nil writes nonempty
    have target := targeted.present w member
    intro empty
    simp [empty] at target
  rw [commit, MemoryStore.stage_eq_ok collection unique targeted]
  exact congrArg Except.ok (put_filterMap (settle writes) present)

theorem commitAll_eq_ok {parts : List (List Write)} (nonempty : ∀ part ∈ parts, part ≠ [])
    (unique : UniqueIds (cs.documents collection))
    (targeted : Targeted parts.flatten (cs.documents collection)) :
    cs.commitAll (parts.map (⟨collection, ·⟩)) =
      .ok (cs.revise collection (settle parts.flatten)) := by
  induction parts generalizing cs with
  | nil =>
    rw [List.flatten_nil, show settle [] = some from rfl, revise_some]
    rfl
  | cons part parts ih =>
    rw [List.flatten_cons] at targeted
    have first := commit_eq_ok (nonempty part List.mem_cons_self) unique targeted.left
    have others : ∀ other ∈ parts, other ≠ [] := fun other member =>
      nonempty other (List.mem_cons_of_mem _ member)
    have remaining : (cs.revise collection (settle part)).documents collection = _ :=
      documents_revise_self (settle part)
    have unique' : UniqueIds ((cs.revise collection (settle part)).documents collection) := by
      rw [remaining]
      exact unique.filterMap fun _ _ => id_of_settle
    have targeted' := targeted.right
    rw [← remaining] at targeted'
    refine commitAll_cons_eq_ok_iff.mpr ⟨_, first, ?_⟩
    refine (ih others unique' targeted').trans (congrArg Except.ok ?_)
    rw [revise_revise, List.flatten_cons]
    exact revise_congr fun d _ => (settle_append targeted.distinct d).symm

theorem ne_nil_of_mem_pieces {size : Nat} {filling xs part : List α}
    (member : part ∈ pieces size filling xs) : part ≠ [] := by
  induction xs generalizing filling with
  | nil =>
    rw [pieces] at member
    split at member
    · simp at member
    · rename_i full
      rw [List.mem_singleton.mp member]
      simpa using full
  | cons x xs ih =>
    rw [pieces] at member
    split at member
    · rcases List.mem_cons.mp member with rfl | later
      · simp
      · exact ih later
    · exact ih member

theorem commitAll_chunks_eq_ok (limit : Nat) (unique : UniqueIds (cs.documents collection))
    (targeted : Targeted writes (cs.documents collection)) :
    cs.commitAll (Batch.chunks ⟨collection, writes⟩ limit) =
      .ok (cs.revise collection (settle writes)) := by
  have whole : (pieces (max limit 1) [] writes).flatten = writes := flatten_pieces _ [] writes
  rw [← whole] at targeted
  refine (commitAll_eq_ok (fun part => ne_nil_of_mem_pieces) unique targeted).trans ?_
  rw [whole]

/-- The first chunks hold the first writes. -/
theorem commitAll_eq_ok_of_chunks {limit : Nat} {done rest : List Batch}
    (unique : UniqueIds (cs.documents collection))
    (targeted : Targeted writes (cs.documents collection))
    (split : Batch.chunks ⟨collection, writes⟩ limit = done ++ rest) :
    ∃ first later, writes = first ++ later ∧
      cs.commitAll done = .ok (cs.revise collection (settle first)) := by
  obtain ⟨first, later, cut, rfl, -⟩ := List.map_eq_append_iff.mp split
  have whole : first.flatten ++ later.flatten = writes := by
    rw [← List.flatten_append, ← cut]
    exact flatten_pieces _ [] writes
  have nonempty : ∀ part ∈ first, part ≠ [] := fun part member =>
    ne_nil_of_mem_pieces (cut ▸ List.mem_append_left later member)
  rw [← whole] at targeted
  exact ⟨first.flatten, later.flatten, whole.symm, commitAll_eq_ok nonempty unique targeted.left⟩

end Collections

end DocumentMigration
