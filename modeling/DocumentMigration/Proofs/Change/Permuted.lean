import DocumentMigration.Proofs.Change.Growth

/-! Changes at places apart from each other break off alike in every order. A change that finds
room for its elements leaves every other change just as much: the arrays that it makes longer stay
within the capacity. -/
namespace DocumentMigration.Change

open Json

variable {capacity : Capacity}

section Children

variable {s t : String} {v x : Value} {items : List Value} {i : Nat}

theorem hasRoom_iff : hasRoom capacity items i ↔ i < items.length ∨ i < capacity.length := by
  rw [← not_iff_not, Bool.not_eq_true, hasRoom_eq_false_iff]
  omega

theorem hasRoomAt_putChild (room : hasRoomAt capacity s v) :
    hasRoomAt capacity t (putChild s x v) = hasRoomAt capacity t v := by
  cases v with
  | array items =>
    cases index : Path.index? s with
    | none => rw [putChild_array_of_no_index index]
    | some i =>
      rw [putChild_array index]
      cases other : Path.index? t with
      | none => simp [hasRoomAt, other]
      | some j =>
        have room : hasRoom capacity items i := by simpa [hasRoomAt, index] using room
        rw [hasRoom_iff] at room
        rw [Bool.eq_iff_iff]
        simp only [hasRoomAt, other, Option.map_some, Option.getD_some, hasRoom_iff,
          List.length_set, length_grow]
        omega
  | _ => rfl

theorem hasRoomAt_dropChild : hasRoomAt capacity t (dropChild s v) = hasRoomAt capacity t v := by
  cases v with
  | array items =>
    cases index : Path.index? s with
    | none => rw [dropChild_array_of_no_index index]
    | some i =>
      rw [dropChild_array index]
      cases other : Path.index? t with
      | none => simp [hasRoomAt, other]
      | some j =>
        rw [Bool.eq_iff_iff]
        simp [hasRoomAt, other, hasRoom_iff]
  | _ => rfl

end Children

section Walk

variable {c d : AttributeChange} {segments asked whole : List String} {t : String} {v : Value}

/-- The walk of a change to its leaf, from some container on the way. -/
def walk (c : AttributeChange) (segments : List String) (v : Value) : Edited :=
  descend c.path (editOf c (leafOf c.path)) segments v

theorem hasRoomAt_walk (room : findsRoom capacity (segments ++ leafNeeded c) v)
    (h : v.isContainer) : hasRoomAt capacity t (walk c segments v).1 = hasRoomAt capacity t v := by
  cases segments with
  | nil =>
    have edits := editsChild_editOf c (leafOf c.path)
    by_cases place : HasPlace (leafOf c.path) v
    · rw [walk, descend, edits.placed h place]
      by_cases deletes : c.operation = .delete
      · rw [if_pos deletes]
        exact hasRoomAt_dropChild
      · rw [if_neg deletes]
        rw [List.nil_append, leafNeeded, if_neg deletes, findsRoom, Bool.and_eq_true] at room
        exact hasRoomAt_putChild room.1
    · rw [walk, descend, edits.unplaced h place]
  | cons s rest =>
    by_cases place : HasPlace s v
    · rw [List.cons_append, findsRoom, Bool.and_eq_true] at room
      rw [walk, descend_cons_of_hasPlace h place]
      exact hasRoomAt_putChild room.1
    · rw [walk, descend_cons_of_not_hasPlace h place]

/-- A walk leaves as much room at a path apart from its own as it finds there. -/
theorem findsRoom_walk (room : findsRoom capacity (segments ++ leafNeeded c) v)
    (h : v.isContainer) (part : asked <+: whole)
    (apart : Path.overlapping (segments ++ [leafOf c.path]) whole = false) :
    findsRoom capacity asked (walk c segments v).1 = findsRoom capacity asked v := by
  induction segments generalizing asked whole v with
  | nil =>
    cases asked with
    | nil => rfl
    | cons t asked =>
      obtain ⟨rest, rfl⟩ := part
      have elsewhere : Elsewhere (leafOf c.path) t v := by
        by_contra near
        have same := (same_of_not_elsewhere near).2.1
        simp [Path.overlapping, same] at apart
      have touched := (editsChild_editOf c (leafOf c.path)).touched h
      have child : childAt t (walk c [] v).1 = childAt t v := touched.childAt_eq elsewhere
      rw [childAt, childAt] at child
      rw [findsRoom, findsRoom, hasRoomAt_walk room h, child]
  | cons s segments ih =>
    cases asked with
    | nil => rfl
    | cons t asked =>
      obtain ⟨rest, rfl⟩ := part
      obtain ⟨_, _, edits⟩ :=
        exists_editsChild_descend c.path (editsChild_editOf c (leafOf c.path)) (s :: segments)
      have touched : Touched s v (walk c (s :: segments) v).1 := edits.touched h
      rw [findsRoom, findsRoom, hasRoomAt_walk room h]
      congr 1
      by_cases elsewhere : Elsewhere s t v
      · have child := touched.childAt_eq elsewhere
        rw [childAt, childAt] at child
        rw [child]
      -- The walk goes on in the child that is asked for, maybe by another name for it.
      · obtain ⟨place, same, sameChild, -⟩ := same_of_not_elsewhere elsewhere
        obtain ⟨-, -, written, -⟩ :=
          same_of_not_elsewhere (mt touched.elsewhere_iff.mp elsewhere)
        rw [List.cons_append, findsRoom_cons, Bool.and_eq_true] at room
        have deeper : Path.overlapping (segments ++ [leafOf c.path]) (asked ++ rest) = false := by
          simpa [Path.overlapping, same] using apart
        have inner := ih room.2 (isContainer_below s v) (List.prefix_append asked rest) deeper
        rw [written, sameChild, walk, descend_cons_of_hasPlace h place, child?_putChild place,
          Option.getD_some]
        rw [walk, below, findsRoom_container] at inner
        exact inner

theorem needed_within_segments (d : AttributeChange) : needed d <+: Path.segments d.path := by
  by_cases unnamed : (leafOf d.path).isEmpty = true
  · rw [needed_of_no_leaf unnamed]
    exact List.nil_prefix
  · rw [needed_of_leaf (Bool.eq_false_iff.mpr unnamed)]
    split
    · exact List.dropLast_prefix _
    · exact List.prefix_refl _

/-- A change that finds room leaves as much for a change apart from it. -/
theorem findsRoom_applyOne (room : findsRoom capacity (needed c) v) (h : v.isContainer)
    (apart : Path.overlap c.path d.path = false) :
    findsRoom capacity (needed d) (applyOne c v).1 = findsRoom capacity (needed d) v := by
  by_cases unnamed : (leafOf c.path).isEmpty = true
  · rw [applyOne_of_no_leaf unnamed]
  · have named := Bool.eq_false_iff.mpr unnamed
    rw [needed_eq_append named] at room
    rw [Path.overlap, segments_eq c.path] at apart
    rw [applyOne_of_leaf named]
    exact findsRoom_walk room h (needed_within_segments d) apart

end Walk

section Runs

variable {c d : AttributeChange} {changes changes' : List AttributeChange} {v w : Value}
  {document result : Object}

theorem executeAll_cons_eq_iff : executeAll capacity (c :: changes) v = some (w, none) ↔
    findsRoom capacity (needed c) v ∧ (applyOne c v).2 = none ∧
      executeAll capacity changes (applyOne c v).1 = some (w, none) := by
  cases room : findsRoom capacity (needed c) v with
  | false =>
    rw [executeAll_cons_of_no_room room]
    simp
  | true =>
    by_cases done : (applyOne c v).2 = none
    · rw [executeAll_cons_of_done room done]
      simp [done]
    · rw [executeAll_cons_of_failed room done]
      refine iff_of_false (fun same => done ?_) fun all => done all.2.1
      rw [Option.some.inj same]

theorem executeAll_swap (h : v.isContainer) (canonical : v.Canonical)
    (apart : Path.overlap c.path d.path = false) :
    executeAll capacity (c :: d :: changes) v = some (w, none) ↔
      executeAll capacity (d :: c :: changes) v = some (w, none) := by
  have second := applyOne_comm h canonical apart
  have first : (applyOne c (applyOne d v).1).2 = (applyOne c v).2 := by
    rw [applyOne_comm h canonical (overlap_symm apart)]
  simp only [executeAll_cons_eq_iff, second, first]
  constructor
  · rintro ⟨room, done, roomToo, doneToo, rest⟩
    rw [findsRoom_applyOne room h apart] at roomToo
    rw [findsRoom_applyOne roomToo h (overlap_symm apart)]
    exact ⟨roomToo, doneToo, room, done, rest⟩
  · rintro ⟨room, done, roomToo, doneToo, rest⟩
    rw [findsRoom_applyOne room h (overlap_symm apart)] at roomToo
    rw [findsRoom_applyOne roomToo h apart]
    exact ⟨roomToo, doneToo, room, done, rest⟩

/-- Changes apart from each other that all find room do so in any order. -/
theorem executeAll_perm (perm : changes.Perm changes') (separate : Separate changes)
    (writes : ∀ c ∈ changes, WritesCanonical c) (h : v.isContainer) (canonical : v.Canonical) :
    executeAll capacity changes v = some (w, none) ↔
      executeAll capacity changes' v = some (w, none) := by
  induction perm generalizing v with
  | nil => rfl
  | cons c perm ih =>
    obtain ⟨first, writes⟩ := List.forall_mem_cons.mp writes
    simp only [executeAll_cons_eq_iff]
    refine and_congr_right fun _ => and_congr_right fun _ => ?_
    exact ih separate.of_cons writes (isContainer_applyOne c h)
      (canonical_applyOne first h canonical)
  | swap c d changes =>
    obtain ⟨apart, -⟩ := List.pairwise_cons.mp separate
    exact executeAll_swap h canonical (apart c List.mem_cons_self)
  | trans first _ ih later =>
    refine (ih separate writes h canonical).trans (later ?_ ?_ h canonical)
    · exact (first.pairwise_iff overlap_symm).mp separate
    · exact fun c member => writes c (first.mem_iff.mpr member)

theorem execute_perm (perm : changes.Perm changes') (separate : Separate changes)
    (writes : ∀ c ∈ changes, WritesCanonical c) (canonical : (Value.object document).Canonical) :
    execute capacity changes document = some (result, none) ↔
      execute capacity changes' document = some (result, none) := by
  rw [execute_eq_some_iff, execute_eq_some_iff]
  exact executeAll_perm perm separate writes rfl canonical

/-- Changes apart from each other that fail in no order break off in all orders or in none. -/
theorem execute_eq_none_iff_of_perm (perm : changes.Perm changes') (separate : Separate changes)
    (writes : ∀ c ∈ changes, WritesCanonical c) (canonical : (Value.object document).Canonical)
    (done : (apply changes document).2 = none) :
    execute capacity changes document = none ↔ execute capacity changes' document = none := by
  have ran : apply changes document = ((apply changes document).1, none) := Prod.ext rfl done
  have ranToo := (apply_perm perm separate writes canonical).mp ran
  have ends {changes : List AttributeChange} {result : Object}
      (ran : apply changes document = (result, none)) :
      execute capacity changes document = none ↔
        execute capacity changes document ≠ some (result, none) := by
    constructor
    · intro broken
      rw [broken]
      exact nofun
    · intro other
      by_contra ended
      obtain ⟨reached, ended⟩ := Option.ne_none_iff_exists'.mp ended
      exact other (ended.trans (congrArg some ((apply_of_execute ended).symm.trans ran)))
  rw [ends ran, ends ranToo, Ne, Ne, execute_perm perm separate writes canonical]

end Runs

end DocumentMigration.Change
