import DocumentMigration.Proofs.Change.Apply
import DocumentMigration.Proofs.Json.Reordered

/-! Edits keep the members of every object in the order of their keys, as long as the values that
they write have theirs in order. -/
namespace DocumentMigration

open Json

namespace Json.Value

variable {v x : Value} {xs : List Value} {ms : Object} {key : String}

theorem Canonical.child? {segment : String} (canonical : v.Canonical)
    (found : Path.child? segment v = some x) : x.Canonical := by
  cases v with
  | object ms => exact canonical.member (Object.mem_of_get? found)
  | array xs =>
    obtain ⟨i, _, read⟩ := Option.bind_eq_some_iff.mp found
    exact canonical.items (List.mem_of_getElem? read)
  | _ => cases found

theorem Canonical.follow? {segments : List String} (canonical : v.Canonical)
    (found : Path.follow? segments v = some x) : x.Canonical := by
  induction segments generalizing v with
  | nil =>
    cases found
    exact canonical
  | cons segment rest ih =>
    obtain ⟨child, first, later⟩ := Option.bind_eq_some_iff.mp found
    exact ih (canonical.child? first) later

end Json.Value

namespace Change

open Json.Value

variable {v x : Value} {s : String}

theorem canonical_container (canonical : v.Canonical) : (container v).Canonical := by
  cases v with
  | array items => exact canonical
  | object members => exact canonical
  | _ => exact ⟨.nil, trivial⟩

theorem canonical_getD {read : Option Value} (canonical : ∀ w, read = some w → w.Canonical) :
    (read.getD .null).Canonical := by
  cases read with
  | none => trivial
  | some w => exact canonical w rfl

theorem canonical_putChild (canonical : v.Canonical) (new : x.Canonical) :
    (putChild s x v).Canonical := by
  cases v with
  | array items =>
    cases index : Path.index? s with
    | none => simpa only [putChild, index] using canonical
    | some i =>
      simp only [putChild, index]
      refine canonicalItems_iff.mpr fun y member => ?_
      rcases List.mem_or_eq_of_mem_set member with old | rfl
      · rw [grow, List.mem_append] at old
        rcases old with old | filled
        · exact canonical.items old
        · rw [List.eq_of_mem_replicate filled]
          trivial
      · exact new
  | object members => exact canonical.insert new
  | _ => exact canonical

theorem canonical_dropChild (canonical : v.Canonical) : (dropChild s v).Canonical := by
  cases v with
  | array items =>
    cases index : Path.index? s with
    | none => simpa only [dropChild, index] using canonical
    | some i =>
      simp only [dropChild, index]
      refine canonicalItems_iff.mpr fun y member => ?_
      rcases List.mem_or_eq_of_mem_set member with old | rfl
      · exact canonical.items old
      · trivial
  | object members => exact canonical.erase
  | _ => exact canonical

theorem canonical_below (canonical : v.Canonical) : (below s v).Canonical :=
  canonical_container (canonical_getD fun _ found => canonical.child? found)

theorem canonical_descend {path : String} {edit : Value → Edited} (segments : List String)
    (keeps : ∀ w : Value, w.isContainer → w.Canonical → (edit w).1.Canonical)
    (h : v.isContainer) (canonical : v.Canonical) :
    (descend path edit segments v).1.Canonical := by
  induction segments generalizing v with
  | nil => exact keeps v h canonical
  | cons segment rest ih =>
    by_cases place : HasPlace segment v
    · rw [descend_cons_of_hasPlace h place]
      exact canonical_putChild canonical (ih (isContainer_below _ _) (canonical_below canonical))
    · rwa [descend_cons_of_not_hasPlace h place]

variable {c : AttributeChange} {changes : List AttributeChange}

/-- What a change writes, if it writes anything, has its members in order. -/
def WritesCanonical (c : AttributeChange) : Prop :=
  c.operation ≠ .delete → (c.newValue.getD .null).Canonical

theorem canonical_editOf (writes : WritesCanonical c) (leaf : String) (h : v.isContainer)
    (canonical : v.Canonical) : (editOf c leaf v).1.Canonical := by
  by_cases place : HasPlace leaf v
  · by_cases deletes : c.operation = .delete
    · have edit : editOf c leaf = removeLeaf c.path leaf := by
        simp [editOf, deletes]
      rw [edit, removeLeaf_of_hasPlace place]
      exact canonical_dropChild canonical
    · have edit : editOf c leaf = setLeaf c.path leaf (c.newValue.getD .null) := by
        cases operation : c.operation <;> simp [editOf, operation] at deletes ⊢
      rw [edit, setLeaf_of_hasPlace place]
      exact canonical_putChild canonical (writes deletes)
  · cases operation : c.operation <;>
      simpa [editOf, operation, setLeaf_of_not_hasPlace h place,
        removeLeaf_of_not_hasPlace h place] using canonical

theorem canonical_applyOne (writes : WritesCanonical c) (h : v.isContainer)
    (canonical : v.Canonical) : (applyOne c v).1.Canonical := by
  by_cases unnamed : (leafOf c.path).isEmpty = true
  · rwa [applyOne_of_no_leaf unnamed]
  · rw [applyOne_of_leaf (Bool.eq_false_iff.mpr unnamed)]
    exact canonical_descend _ (fun _ => canonical_editOf writes _) h canonical

theorem canonical_applyAll (writes : ∀ c ∈ changes, WritesCanonical c) (h : v.isContainer)
    (canonical : v.Canonical) : (applyAll changes v).1.Canonical := by
  induction changes generalizing v with
  | nil => exact canonical
  | cons c changes ih =>
    obtain ⟨first, later⟩ := List.forall_mem_cons.mp writes
    have next := canonical_applyOne first h canonical
    by_cases done : (applyOne c v).2 = none
    · rw [applyAll_cons_of_done done]
      exact ih later (isContainer_applyOne c h) next
    · rwa [applyAll_cons_of_failed done]

theorem canonical_applied {document result : Object}
    (writes : ∀ c ∈ changes, WritesCanonical c) (canonical : (Value.object document).Canonical)
    (done : applied changes document = .ok result) : (Value.object result).Canonical := by
  have kept := canonical_applyAll writes rfl canonical
  rwa [applied_eq_ok_iff.mp done] at kept

end Change

end DocumentMigration
