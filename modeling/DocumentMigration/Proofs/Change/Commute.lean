import DocumentMigration.Proofs.Change.Canonical

/-! Edits at places apart from each other, one after the other in either order. Each edits a child
of a container and looks at nothing but that child, so that neither finds out whether the other has
run. -/
namespace DocumentMigration.Change

open Json

section Items

variable {items : List Value} {i j : Nat}

theorem grow_grow (items : List Value) (i j : Nat) :
    grow (grow items i) j = grow items (max i j) := by
  rw [grow, length_grow, grow, List.append_assoc, List.replicate_append_replicate, grow]
  congr 2
  omega

theorem grow_set (inside : i < items.length) (x : Value) (j : Nat) :
    grow (items.set i x) j = (grow items j).set i x := by
  rw [grow, grow, List.set_append_left _ _ inside, List.length_set]

/-- What is filled up is null already. -/
theorem grow_set_null (items : List Value) (i j : Nat) :
    grow (items.set i .null) j = (grow items j).set i .null := by
  by_cases inside : i < items.length
  · exact grow_set inside .null j
  · have absent : items[i]? = none := List.getElem?_eq_none (Nat.le_of_not_lt inside)
    have filled := kept_grow items j i
    rw [absent] at filled
    rw [List.set_eq_of_length_le (Nat.le_of_not_lt inside), set_null_eq_self_iff.mpr]
    exact filled.imp id And.right

theorem set_grow_comm (different : i ≠ j) (items : List Value) (x y : Value) :
    (grow ((grow items i).set i x) j).set j y = (grow ((grow items j).set j y) i).set i x := by
  have inside (k : Nat) : k < (grow items k).length := by rw [length_grow]; omega
  rw [grow_set (inside i), grow_set (inside j), grow_grow, grow_grow, Nat.max_comm,
    List.set_comm _ _ different]

end Items

section Children

variable {s t : String} {v x y : Value}

/-- Writes at different children of a container. -/
theorem putChild_comm (canonical : v.Canonical) (elsewhere : Elsewhere s t v) :
    putChild t y (putChild s x v) = putChild s x (putChild t y v) := by
  cases v with
  | array items =>
    cases hs : Path.index? s <;> cases ht : Path.index? t <;> simp only [putChild, hs, ht]
    next i j =>
      have different : i ≠ j := by rintro rfl; exact elsewhere i hs ht
      rw [set_grow_comm different]
  | object members => simp only [putChild, canonical.1.insert_insert (Ne.symm elsewhere)]
  | _ => rfl

theorem dropChild_putChild (canonical : v.Canonical) (elsewhere : Elsewhere s t v) :
    dropChild t (putChild s x v) = putChild s x (dropChild t v) := by
  cases v with
  | array items =>
    cases hs : Path.index? s <;> cases ht : Path.index? t <;>
      simp only [putChild, dropChild, hs, ht]
    next i j =>
      have different : i ≠ j := by rintro rfl; exact elsewhere i hs ht
      rw [grow_set_null, List.set_comm _ _ different]
  | object members => simp only [putChild, dropChild, canonical.1.insert_erase elsewhere]
  | _ => rfl

theorem dropChild_comm (s t : String) (v : Value) :
    dropChild t (dropChild s v) = dropChild s (dropChild t v) := by
  cases v with
  | array items =>
    cases hs : Path.index? s <;> cases ht : Path.index? t <;> simp only [dropChild, hs, ht]
    next i j =>
      by_cases same : i = j
      · rw [same]
      · rw [List.set_comm _ _ same]
  | object members => simp only [dropChild, Object.erase_erase t s]
  | _ => rfl

end Children

/-- What is made of a child, none if it is dropped, and the fault that stops the edit. -/
abbrev ChildEdit := Value → Option Value × Option PathError

/-- A child written, or dropped. -/
def place (s : String) : Option Value → Value → Value
  | some x, v => putChild s x v
  | none, v => dropChild s v

/-- The child at a segment, null where there is none. -/
def childAt (s : String) (v : Value) : Value := (Path.child? s v).getD .null

/-- An edit of one child, which depends on nothing else in the container. -/
structure EditsChild (s : String) (made : ChildEdit) (blocked : PathError)
    (edit : Value → Edited) : Prop where
  placed : ∀ {v : Value}, v.isContainer → HasPlace s v →
    edit v = (place s (made (childAt s v)).1 v, (made (childAt s v)).2)
  unplaced : ∀ {v : Value}, v.isContainer → ¬ HasPlace s v → edit v = (v, some blocked)

section EditsChild

variable {s t leaf leaf' path path' : String} {v : Value} {made made' : ChildEdit}
  {blocked blocked' : PathError} {edit edit' : Value → Edited}

theorem touched_place (s : String) (child : Option Value) (v : Value) :
    Touched s v (place s child v) := by
  cases child with
  | some x => exact .put x
  | none => exact .drop

theorem place_comm (canonical : v.Canonical) (elsewhere : Elsewhere s t v)
    (child other : Option Value) :
    place t other (place s child v) = place s child (place t other v) := by
  cases child with
  | some x =>
    cases other with
    | some y => exact putChild_comm canonical elsewhere
    | none => exact dropChild_putChild canonical elsewhere
  | none =>
    cases other with
    | some y => exact (dropChild_putChild canonical elsewhere.symm).symm
    | none => exact dropChild_comm s t v

theorem Touched.childAt_eq {w : Value} (touched : Touched s v w) (elsewhere : Elsewhere s t v) :
    childAt t w = childAt t v := by
  rcases touched.kept elsewhere with same | ⟨absent, null⟩
  · rw [childAt, same, childAt]
  · rw [childAt, null, childAt, absent]
    rfl

/-- Neither of two edits of different children takes notice of the other. -/
theorem EditsChild.comm (first : EditsChild s made blocked edit)
    (second : EditsChild t made' blocked' edit') (h : v.isContainer) (canonical : v.Canonical)
    (elsewhere : Elsewhere s t v) : edit' (edit v).1 = ((edit (edit' v).1).1, (edit' v).2) := by
  by_cases here : HasPlace s v <;> by_cases there : HasPlace t v
  · have early := touched_place s (made (childAt s v)).1 v
    have late := touched_place t (made' (childAt t v)).1 v
    rw [first.placed h here, second.placed h there,
      second.placed (early.isContainer h) (early.hasPlace_iff.mpr there),
      first.placed (late.isContainer h) (late.hasPlace_iff.mpr here),
      early.childAt_eq elsewhere, late.childAt_eq elsewhere.symm, place_comm canonical elsewhere]
  · have early := touched_place s (made (childAt s v)).1 v
    rw [first.placed h here, second.unplaced h there, first.placed h here,
      second.unplaced (early.isContainer h) (mt early.hasPlace_iff.mp there)]
  · have late := touched_place t (made' (childAt t v)).1 v
    rw [first.unplaced h here, second.placed h there,
      first.unplaced (late.isContainer h) (mt late.hasPlace_iff.mp here)]
  · rw [first.unplaced h here, second.unplaced h there, first.unplaced h here]

/-- A change edits the parent of its leaf at the leaf. -/
theorem editsChild_editOf (c : AttributeChange) (leaf : String) :
    EditsChild leaf
      (fun _ => (if c.operation = .delete then none else some (c.newValue.getD .null), none))
      (.arrayIndex c.path leaf) (editOf c leaf) := by
  constructor
  · intro v _ place
    cases operation : c.operation <;>
      simp [editOf, operation, setLeaf_of_hasPlace place, removeLeaf_of_hasPlace place,
        Change.place]
  · intro v h blocked
    cases operation : c.operation <;>
      simp [editOf, operation, setLeaf_of_not_hasPlace h blocked,
        removeLeaf_of_not_hasPlace h blocked]

/-- A walk edits the child at its first segment. -/
theorem exists_editsChild_descend (path : String) (leafEdit : EditsChild leaf made blocked edit)
    (segments : List String) :
    ∃ made blocked, EditsChild (segments.headD leaf) made blocked (descend path edit segments) := by
  cases segments with
  | nil => exact ⟨made, blocked, leafEdit⟩
  | cons s rest =>
    refine ⟨fun child => (some (descend path edit rest (container child)).1,
      (descend path edit rest (container child)).2), .arrayIndex path s, ?_, ?_⟩
    · intro v h place
      exact descend_cons_of_hasPlace h place
    · intro v h unplaced
      exact descend_cons_of_not_hasPlace h unplaced

theorem EditsChild.touched (edits : EditsChild s made blocked edit) (h : v.isContainer) :
    Touched s v (edit v).1 := by
  by_cases here : HasPlace s v
  · rw [edits.placed h here]
    exact touched_place s _ v
  · rw [edits.unplaced h here]
    exact .left

theorem not_elsewhere_self (here : HasPlace s v) : ¬ Elsewhere s s v := by
  cases v with
  | array items =>
    obtain ⟨i, index⟩ := Option.isSome_iff_exists.mp here
    exact fun elsewhere => elsewhere i index index
  | object members => exact fun elsewhere => elsewhere rfl
  | _ => exact here.elim

/-- A walk goes on in the container that was put there, maybe under another name. -/
theorem descend_putChild_of_near (near : ¬ Elsewhere s t v) (h : v.isContainer)
    (rest : List String) {x : Value} (hx : x.isContainer) :
    descend path edit (t :: rest) (putChild s x v) =
      (putChild s (descend path edit rest x).1 v, (descend path edit rest x).2) := by
  have touched : Touched s v (putChild s x v) := .put x
  obtain ⟨here, -, -, -⟩ := same_of_not_elsewhere near
  obtain ⟨there, -, -, -⟩ := same_of_not_elsewhere (mt Elsewhere.symm near)
  obtain ⟨-, -, sameChild, samePut⟩ := same_of_not_elsewhere (mt touched.elsewhere_iff.mp near)
  have start : below t (putChild s x v) = x :=
    below_of_child? (sameChild.trans (child?_putChild here)) hx
  rw [descend_cons_of_hasPlace (touched.isContainer h) (touched.hasPlace_iff.mpr there), start,
    samePut, putChild_putChild]

/-- Two walks along paths apart from each other part at some container. -/
theorem descend_comm (leafEdit : EditsChild leaf made blocked edit)
    (leafEdit' : EditsChild leaf' made' blocked' edit') (segments segments' : List String)
    (h : v.isContainer) (canonical : v.Canonical)
    (apart : Path.overlapping (segments ++ [leaf]) (segments' ++ [leaf']) = false) :
    descend path' edit' segments' (descend path edit segments v).1 =
      ((descend path edit segments (descend path' edit' segments' v).1).1,
        (descend path' edit' segments' v).2) := by
  induction segments generalizing segments' v with
  | nil =>
    obtain ⟨_, _, second⟩ := exists_editsChild_descend path' leafEdit' segments'
    refine leafEdit.comm second h canonical (Classical.not_not.mp fun near => ?_)
    have same := (same_of_not_elsewhere near).2.1
    cases segments' <;> simp_all [Path.overlapping]
  | cons s rest ih =>
    obtain ⟨_, _, first⟩ := exists_editsChild_descend path leafEdit (s :: rest)
    obtain ⟨_, _, second⟩ := exists_editsChild_descend path' leafEdit' segments'
    by_cases near : Elsewhere s (segments'.headD leaf') v
    · exact first.comm second h canonical near
    -- Both walks go on in one child, each by its own name for it, and part further down.
    obtain ⟨here, same, sameChild, samePut⟩ := same_of_not_elsewhere near
    obtain ⟨_, _, t, rest', head, rfl, deeper⟩ := deeper_of_same_heads (p := s :: rest) same apart
    cases head
    rw [List.headD_cons] at near sameChild samePut
    have there : HasPlace t v := (same_of_not_elsewhere (mt Elsewhere.symm near)).1
    have start : below t v = below s v := by rw [below, below, sameChild]
    have inner := isContainer_below s v
    obtain ⟨_, _, firstInner⟩ := exists_editsChild_descend path leafEdit rest
    obtain ⟨_, _, secondInner⟩ := exists_editsChild_descend path' leafEdit' rest'
    rw [descend_cons_of_hasPlace h here, descend_cons_of_hasPlace h there, start, samePut,
      descend_putChild_of_near near h rest' ((firstInner.touched inner).isContainer inner),
      descend_putChild_of_near (not_elsewhere_self here) h rest
        ((secondInner.touched inner).isContainer inner),
      ih rest' inner (canonical_below canonical) deeper]

end EditsChild

section Runs

variable {c d : AttributeChange} {changes changes' : List AttributeChange} {v w : Value}

theorem overlap_symm {p q : String} (apart : Path.overlap p q = false) :
    Path.overlap q p = false := by
  rwa [Path.overlap, Path.overlapping_comm]

/-- Two changes apart from each other come to the same value in either order, and the second fails
just when it fails without the first. -/
theorem applyOne_comm (h : v.isContainer) (canonical : v.Canonical)
    (apart : Path.overlap c.path d.path = false) :
    applyOne d (applyOne c v).1 = ((applyOne c (applyOne d v).1).1, (applyOne d v).2) := by
  by_cases unnamed : (leafOf c.path).isEmpty = true
  · simp only [applyOne_of_no_leaf unnamed]
  by_cases unnamedToo : (leafOf d.path).isEmpty = true
  · simp only [applyOne_of_no_leaf unnamedToo]
  rw [Path.overlap, segments_eq c.path, segments_eq d.path] at apart
  simp only [applyOne_of_leaf (Bool.eq_false_iff.mpr unnamed),
    applyOne_of_leaf (Bool.eq_false_iff.mpr unnamedToo)]
  exact descend_comm (editsChild_editOf c _) (editsChild_editOf d _) _ _ h canonical apart

theorem applyAll_swap (h : v.isContainer) (canonical : v.Canonical)
    (apart : Path.overlap c.path d.path = false) :
    applyAll (c :: d :: changes) v = (w, none) ↔ applyAll (d :: c :: changes) v = (w, none) := by
  have second := applyOne_comm h canonical apart
  have first : (applyOne c (applyOne d v).1).2 = (applyOne c v).2 := by
    rw [applyOne_comm h canonical (overlap_symm apart)]
  simp only [applyAll_cons_eq_iff, second, first]
  exact and_left_comm

/-- Changes apart from each other, in any order. -/
theorem applyAll_perm (perm : changes.Perm changes') (separate : Separate changes)
    (writes : ∀ c ∈ changes, WritesCanonical c) (h : v.isContainer) (canonical : v.Canonical) :
    applyAll changes v = (w, none) ↔ applyAll changes' v = (w, none) := by
  induction perm generalizing v with
  | nil => rfl
  | cons c perm ih =>
    obtain ⟨first, writes⟩ := List.forall_mem_cons.mp writes
    simp only [applyAll_cons_eq_iff]
    exact and_congr_right fun _ => ih separate.of_cons writes (isContainer_applyOne c h)
      (canonical_applyOne first h canonical)
  | swap c d changes =>
    obtain ⟨apart, -⟩ := List.pairwise_cons.mp separate
    exact applyAll_swap h canonical (apart c List.mem_cons_self)
  | trans first _ ih later =>
    refine (ih separate writes h canonical).trans (later ?_ ?_ h canonical)
    · exact (first.pairwise_iff overlap_symm).mp separate
    · exact fun c member => writes c (first.mem_iff.mpr member)

/-- The document that a run leaves behind, and how it ended. -/
theorem apply_eq_iff {document result : Object} {fault : Option PathError} :
    apply changes document = (result, fault) ↔
      applyAll changes (.object document) = (.object result, fault) := by
  obtain ⟨root, object⟩ := applyAll_object changes document
  cases run : applyAll changes (.object document) with
  | mk v stopped =>
    rw [run] at object
    subst object
    simp [apply, run, Value.toObject]

theorem apply_perm {document result : Object} (perm : changes.Perm changes')
    (separate : Separate changes) (writes : ∀ c ∈ changes, WritesCanonical c)
    (canonical : (Value.object document).Canonical) :
    apply changes document = (result, none) ↔ apply changes' document = (result, none) := by
  rw [apply_eq_iff, apply_eq_iff]
  exact applyAll_perm perm separate writes rfl canonical

end Runs

end DocumentMigration.Change
