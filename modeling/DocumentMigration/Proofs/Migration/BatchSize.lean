import DocumentMigration.Proofs.Migration.Recorded
import DocumentMigration.Proofs.Migration.Revise
import DocumentMigration.Proofs.Store.Chunks
import DocumentMigration.Proofs.Store.Commit
import DocumentMigration.Proofs.Store.Identifier

/-! The size of the batches does not matter to what a template makes of a store in memory. Whatever
has been staged can be committed in batches of any size, since the documents that are named in it
have just been listed; the size decides into how many commits the writes go, and nothing else. -/
namespace DocumentMigration

open DocumentMigration.Action

namespace MemoryStore

variable {collection : String} {documents : List Snapshot} {writes : List Write}

/-- Updates of documents that are there can be made, one after another. No id is asked to be there
only once. -/
theorem exists_stage_of_updates (updates : ∀ w ∈ writes, ∃ id data, w = .update id data ∧
    id ∈ documents.map (·.id)) : ∃ next, stage ⟨collection, writes⟩ documents = .ok next := by
  unfold stage
  induction writes generalizing documents with
  | nil => exact ⟨documents, rfl⟩
  | cons w writes ih =>
    obtain ⟨⟨id, data, rfl, present⟩, others⟩ := List.forall_mem_cons.mp updates
    cases found : replace? id data documents with
    | none => exact (replace?_eq_none_iff.mp found present).elim
    | some replaced =>
      have here : stageOne collection documents (.update id data) = .ok replaced := by
        rw [stageOne, found]
      rw [List.foldlM_cons, here]
      refine ih fun w member => ?_
      rw [map_id_replace? found]
      exact others w member

theorem exists_stage_of_deletes (deletes : ∀ w ∈ writes, ∃ id, w = .delete id) :
    ∃ next, stage ⟨collection, writes⟩ documents = .ok next := by
  unfold stage
  induction writes generalizing documents with
  | nil => exact ⟨documents, rfl⟩
  | cons w writes ih =>
    obtain ⟨⟨id, rfl⟩, others⟩ := List.forall_mem_cons.mp deletes
    exact ih others

end MemoryStore

namespace CompiledTemplate

variable {t : CompiledTemplate} {m s : MemoryStore} {writes : List Write}

/-- The writes of listed documents can be made. -/
theorem exists_stage_of_parts {listed documents : List Snapshot} {parts : List (List Write)}
    (named : ∀ d ∈ listed, d.id ∈ documents.map (·.id))
    (staged : listed.mapM t.stageOne = .ok parts) :
    ∃ documents', MemoryStore.stage ⟨t.collection, parts.flatten⟩ documents = .ok documents' := by
  have origin : ∀ w ∈ parts.flatten, ∃ d ∈ listed, ∃ part, t.stageOne d = .ok part ∧ w ∈ part := by
    intro w member
    obtain ⟨part, inParts, member⟩ := List.mem_flatten.mp member
    obtain ⟨d, inListed, made⟩ := Except.exists_of_mem_mapM staged inParts
    exact ⟨d, inListed, part, made, member⟩
  by_cases update : t.operation = .update
  · refine MemoryStore.exists_stage_of_updates fun w member => ?_
    obtain ⟨d, inListed, part, made, member⟩ := origin w member
    obtain ⟨_, after, _, rfl⟩ := (stageOne_update_eq_ok_iff update).mp made
    split at member
    · cases member
    · exact ⟨d.id, after, List.mem_singleton.mp member, named d inListed⟩
  · refine MemoryStore.exists_stage_of_deletes fun w member => ?_
    obtain ⟨d, _, part, made, member⟩ := origin w member
    cases (stageOne_of_not_update update d).symm.trans made
    exact ⟨d.id, List.mem_singleton.mp member⟩

end CompiledTemplate

end DocumentMigration
