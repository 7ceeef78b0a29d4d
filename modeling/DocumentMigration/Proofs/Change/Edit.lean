import DocumentMigration.Proofs.Change.Child

/-! Edits at a path, one level at a time: an edit touches one child of each container on its way.
From this follow what is read at the path afterwards, what is read elsewhere, and that a second run
of the same edit changes nothing, also after edits elsewhere. -/
namespace DocumentMigration.Change

open Json

section Container

variable {v : Value}

theorem container_of_isContainer (h : v.isContainer) : container v = v := by simp [container, h]

theorem isContainer_container (v : Value) : (container v).isContainer := by
  cases v <;> rfl

@[simp] theorem child?_container (s : String) (v : Value) :
    Path.child? s (container v) = Path.child? s v := by
  cases v <;> rfl

/-- Below a scalar there is as little as below an empty object. -/
theorem follow?_container {path : List String} (below : path ≠ []) (v : Value) :
    Path.follow? path (container v) = Path.follow? path v := by
  cases path with
  | nil => contradiction
  | cons s rest => simp [Path.follow?]

theorem Touched.isContainer {s : String} {w : Value} (touched : Touched s v w)
    (h : v.isContainer) : w.isContainer := by
  cases touched with
  | left => exact h
  | put x =>
    cases v with
    | array items => cases index : Path.index? s <;> simp [putChild, index, Value.isContainer]
    | object members => rfl
    | _ => contradiction
  | drop =>
    cases v with
    | array items => cases index : Path.index? s <;> simp [dropChild, index, Value.isContainer]
    | object members => rfl
    | _ => contradiction

end Container

section Leaf

variable {path leaf : String} {x v : Value}

theorem setLeaf_of_hasPlace (place : HasPlace leaf v) :
    setLeaf path leaf x v = (putChild leaf x v, none) := by
  cases v with
  | array items =>
    obtain ⟨i, index⟩ := Option.isSome_iff_exists.mp place
    simp [setLeaf, putChild, index]
  | object members => rfl
  | _ => exact place.elim

theorem removeLeaf_of_hasPlace (place : HasPlace leaf v) :
    removeLeaf path leaf v = (dropChild leaf v, none) := by
  cases v with
  | array items =>
    obtain ⟨i, index⟩ := Option.isSome_iff_exists.mp place
    simp [removeLeaf, dropChild, index]
  | object members => rfl
  | _ => exact place.elim

theorem setLeaf_of_not_hasPlace (h : v.isContainer) (blocked : ¬ HasPlace leaf v) :
    setLeaf path leaf x v = (v, some (.arrayIndex path leaf)) := by
  cases v with
  | array items =>
    have index : Path.index? leaf = none := Option.not_isSome_iff_eq_none.mp blocked
    simp [setLeaf, index]
  | object members => exact (blocked trivial).elim
  | _ => contradiction

theorem removeLeaf_of_not_hasPlace (h : v.isContainer) (blocked : ¬ HasPlace leaf v) :
    removeLeaf path leaf v = (v, some (.arrayIndex path leaf)) := by
  cases v with
  | array items =>
    have index : Path.index? leaf = none := Option.not_isSome_iff_eq_none.mp blocked
    simp [removeLeaf, index]
  | object members => exact (blocked trivial).elim
  | _ => contradiction

end Leaf

/-- What the edits of a leaf have in common. They run on containers; an edit without effect stays
so when the container is edited elsewhere. -/
structure LeafEdit (leaf : String) (edit : Value → Edited) : Prop where
  touched : ∀ {v : Value}, v.isContainer → Touched leaf v (edit v).1
  repeated : ∀ {v : Value}, v.isContainer → (edit v).2 = none → edit (edit v).1 = ((edit v).1, none)
  settled : ∀ {q : String} {v w : Value}, v.isContainer → edit v = (v, none) →
    Elsewhere leaf q v → Touched q v w → edit w = (w, none)

theorem setLeaf_leafEdit (path leaf : String) (x : Value) :
    LeafEdit leaf (setLeaf path leaf x) where
  touched {v} h := by
    by_cases place : HasPlace leaf v
    · rw [setLeaf_of_hasPlace place]
      exact .put x
    · rw [setLeaf_of_not_hasPlace h place]
      exact .left
  repeated {v} h done := by
    by_cases place : HasPlace leaf v
    · rw [setLeaf_of_hasPlace place, setLeaf_of_hasPlace (hasPlace_putChild.mpr place),
        putChild_putChild]
    · simp [setLeaf_of_not_hasPlace h place] at done
  settled {q v w} h unchanged elsewhere touched := by
    by_cases place : HasPlace leaf v
    · have kept : putChild leaf x v = v := by
        simpa [setLeaf_of_hasPlace place] using unchanged
      rw [setLeaf_of_hasPlace (touched.hasPlace_iff.mpr place),
        touched.putChild_settled elsewhere place kept]
    · simp [setLeaf_of_not_hasPlace h place] at unchanged

theorem removeLeaf_leafEdit (path leaf : String) : LeafEdit leaf (removeLeaf path leaf) where
  touched {v} h := by
    by_cases place : HasPlace leaf v
    · rw [removeLeaf_of_hasPlace place]
      exact .drop
    · rw [removeLeaf_of_not_hasPlace h place]
      exact .left
  repeated {v} h done := by
    by_cases place : HasPlace leaf v
    · rw [removeLeaf_of_hasPlace place, removeLeaf_of_hasPlace (hasPlace_dropChild.mpr place),
        dropChild_dropChild]
    · simp [removeLeaf_of_not_hasPlace h place] at done
  settled {q v w} h unchanged elsewhere touched := by
    by_cases place : HasPlace leaf v
    · have kept : dropChild leaf v = v := by
        simpa [removeLeaf_of_hasPlace place] using unchanged
      rw [removeLeaf_of_hasPlace (touched.hasPlace_iff.mpr place),
        touched.dropChild_settled elsewhere place kept]
    · simp [removeLeaf_of_not_hasPlace h place] at unchanged

section Descend

variable {path path' leaf leaf' : String} {edit edit' : Value → Edited}

/-- The value on which a walk goes on below a segment. -/
def below (s : String) (v : Value) : Value := container ((Path.child? s v).getD .null)

theorem isContainer_below (s : String) (v : Value) : (below s v).isContainer :=
  isContainer_container _

theorem below_of_child? {s : String} {v child : Value} (found : Path.child? s v = some child)
    (h : child.isContainer) : below s v = child := by
  simp [below, found, container_of_isContainer h]

theorem follow?_below {s : String} {rest : List String} (deeper : rest ≠ []) (v : Value) :
    Path.follow? rest (below s v) = Path.follow? (s :: rest) v := by
  rw [below, follow?_container deeper, Path.follow?]
  cases Path.child? s v with
  | none =>
    cases rest with
    | nil => contradiction
    | cons t rest => rfl
  | some child => rfl

/-- Two paths apart from each other that begin alike part further down. -/
theorem deeper_of_same_heads {p q : List String} (same : Path.sameSegment (p.headD leaf)
    (q.headD leaf')) (apart : Path.overlapping (p ++ [leaf]) (q ++ [leaf']) = false) :
    ∃ s rest t rest', p = s :: rest ∧ q = t :: rest' ∧
      Path.overlapping (rest ++ [leaf]) (rest' ++ [leaf']) = false := by
  cases p with
  | nil => cases q <;> simp_all [Path.overlapping]
  | cons s rest =>
    cases q with
    | nil => cases rest <;> simp_all [Path.overlapping]
    | cons t rest' =>
      have same : Path.sameSegment s t = true := same
      exact ⟨s, rest, t, rest', rfl, rfl, by simpa [Path.overlapping, same] using apart⟩

/-- A write at one name of a child is read under any other name of it. -/
theorem follow?_putChild_of_near {s t : String} {v : Value} (near : ¬ Elsewhere s t v)
    (rest : List String) (x : Value) :
    Path.follow? (t :: rest) (putChild s x v) = Path.follow? rest x := by
  have place := (same_of_not_elsewhere near).1
  have stays : ¬ Elsewhere s t (putChild s x v) := mt (Touched.put x).elsewhere_iff.mp near
  rw [Path.follow?, (same_of_not_elsewhere stays).2.2.1, child?_putChild place]
  rfl

theorem descend_cons_of_hasPlace {s : String} {rest : List String} {v : Value} (h : v.isContainer)
    (place : HasPlace s v) :
    descend path edit (s :: rest) v =
      (putChild s (descend path edit rest (below s v)).1 v,
        (descend path edit rest (below s v)).2) := by
  cases v with
  | array items =>
    obtain ⟨i, index⟩ := Option.isSome_iff_exists.mp place
    simp [descend, container, Value.isContainer, below, putChild, Path.child?, index,
      getElem?_grow_getD]
  | object members => rfl
  | _ => contradiction

theorem descend_cons_of_not_hasPlace {s : String} {rest : List String} {v : Value}
    (h : v.isContainer) (blocked : ¬ HasPlace s v) :
    descend path edit (s :: rest) v = (v, some (.arrayIndex path s)) := by
  cases v with
  | array items =>
    have index : Path.index? s = none := Option.not_isSome_iff_eq_none.mp blocked
    simp [descend, container, Value.isContainer, index]
  | object members => exact (blocked trivial).elim
  | _ => contradiction

/-- A walk edits one child of the container where it starts. -/
theorem descend_touched (path : String) (leafEdit : LeafEdit leaf edit) (segments : List String)
    {v : Value} (h : v.isContainer) :
    Touched (segments.headD leaf) v (descend path edit segments v).1 := by
  cases segments with
  | nil => exact leafEdit.touched h
  | cons s rest =>
    by_cases place : HasPlace s v
    · rw [descend_cons_of_hasPlace h place]
      exact .put _
    · rw [descend_cons_of_not_hasPlace h place]
      exact .left

theorem isContainer_descend (path : String) (leafEdit : LeafEdit leaf edit)
    (segments : List String) {v : Value} (h : v.isContainer) :
    (descend path edit segments v).1.isContainer :=
  (descend_touched path leafEdit segments h).isContainer h

/-- A walk that comes to its end has edited a container there. -/
theorem follow?_descend (segments : List String) {v : Value}
    (h : v.isContainer) (done : (descend path edit segments v).2 = none) :
    ∃ w, w.isContainer ∧ (edit w).2 = none ∧
      Path.follow? segments (descend path edit segments v).1 = some (edit w).1 := by
  induction segments generalizing v with
  | nil => exact ⟨v, h, done, rfl⟩
  | cons s rest ih =>
    by_cases place : HasPlace s v
    · rw [descend_cons_of_hasPlace h place] at done ⊢
      obtain ⟨w, hw, ended, found⟩ := ih (isContainer_below s v) done
      refine ⟨w, hw, ended, ?_⟩
      rw [Path.follow?, child?_putChild place]
      exact found
    · simp [descend_cons_of_not_hasPlace h place] at done

/-- Whatever a walk does, and however it ends, reads at paths apart from its own are kept. -/
theorem kept_follow?_descend (leafEdit : LeafEdit leaf edit) (segments q : List String)
    {v : Value} (h : v.isContainer)
    (apart : Path.overlapping (segments ++ [leaf]) q = false) :
    Kept (Path.follow? q v) (Path.follow? q (descend path edit segments v).1) := by
  induction segments generalizing q v with
  | nil =>
    cases q with
    | nil => simp [Path.overlapping] at apart
    | cons t rest =>
      have elsewhere : Elsewhere leaf t v := by
        refine Classical.not_not.mp fun near => ?_
        simp [Path.overlapping, (same_of_not_elsewhere near).2.1] at apart
      exact ((leafEdit.touched h).kept elsewhere).follow rest
  | cons s segments ih =>
    cases q with
    | nil => simp [Path.overlapping] at apart
    | cons t rest =>
      -- The two paths part at this container, or both go on inside the same child.
      by_cases elsewhere : Elsewhere s t v
      · exact ((descend_touched path leafEdit (s :: segments) h).kept elsewhere).follow rest
      obtain ⟨place, same, sameChild, _⟩ := same_of_not_elsewhere elsewhere
      rw [descend_cons_of_hasPlace h place]
      have deeper : Path.overlapping (segments ++ [leaf]) rest = false := by
        simpa [Path.overlapping, same] using apart
      have nonempty : rest ≠ [] := by
        rintro rfl
        cases segments <;> simp [Path.overlapping] at deeper
      have before : Path.follow? (t :: rest) v = Path.follow? rest (below s v) := by
        rw [follow?_below nonempty, Path.follow?, sameChild, Path.follow?]
      rw [before, follow?_putChild_of_near elsewhere]
      exact ih rest (isContainer_below s v) deeper

/-- A walk changes nothing just when it changes nothing one level below. -/
theorem descend_cons_eq_self_iff (leafEdit : LeafEdit leaf edit) {s : String} {rest : List String}
    {v : Value} (h : v.isContainer) :
    descend path edit (s :: rest) v = (v, none) ↔
      HasPlace s v ∧ ∃ child, child.isContainer ∧ Path.child? s v = some child ∧
        putChild s child v = v ∧ descend path edit rest child = (child, none) := by
  constructor
  · intro unchanged
    by_cases place : HasPlace s v
    · rw [descend_cons_of_hasPlace h place, Prod.mk.injEq] at unchanged
      obtain ⟨same, done⟩ := unchanged
      have hchild := isContainer_descend path leafEdit rest (isContainer_below s v)
      have found : Path.child? s v = some (descend path edit rest (below s v)).1 := by
        rw [← child?_putChild place, same]
      have start := below_of_child? found hchild
      rw [← start] at found same
      exact ⟨place, below s v, isContainer_below s v, found, same, Prod.ext start.symm done⟩
    · simp [descend_cons_of_not_hasPlace h place] at unchanged
  · rintro ⟨place, child, hchild, found, same, unchanged⟩
    rw [descend_cons_of_hasPlace h place, below_of_child? found hchild, unchanged, same]

/-- A walk that came to its end finds nothing to change when it runs again. -/
theorem descend_repeated (leafEdit : LeafEdit leaf edit) (segments : List String) {v : Value}
    (h : v.isContainer) (done : (descend path edit segments v).2 = none) :
    descend path edit segments (descend path edit segments v).1 =
      ((descend path edit segments v).1, none) := by
  induction segments generalizing v with
  | nil => exact leafEdit.repeated h done
  | cons s rest ih =>
    by_cases place : HasPlace s v
    · have hw := isContainer_descend path leafEdit (s :: rest) h
      rw [descend_cons_of_hasPlace h place] at done hw ⊢
      have inner := isContainer_below s v
      refine (descend_cons_eq_self_iff leafEdit hw).mpr ⟨hasPlace_putChild.mpr place, _,
        isContainer_descend path leafEdit rest inner, child?_putChild place, putChild_putChild, ?_⟩
      exact ih inner done
    · simp [descend_cons_of_not_hasPlace h place] at done

/-- A walk without effect stays so after a walk along a path apart from its own. -/
theorem descend_settled (leafEdit : LeafEdit leaf edit) (leafEdit' : LeafEdit leaf' edit')
    (segments segments' : List String) {v : Value} (h : v.isContainer)
    (apart : Path.overlapping (segments ++ [leaf]) (segments' ++ [leaf']) = false)
    (unchanged : descend path edit segments v = (v, none)) :
    descend path edit segments (descend path' edit' segments' v).1 =
      ((descend path' edit' segments' v).1, none) := by
  induction segments generalizing segments' v with
  | nil =>
    have elsewhere : Elsewhere leaf (segments'.headD leaf') v := by
      refine Classical.not_not.mp fun near => ?_
      have same := (same_of_not_elsewhere near).2.1
      cases segments' <;> simp [Path.overlapping] at apart same <;> simp [apart] at same
    exact leafEdit.settled h unchanged elsewhere (descend_touched path' leafEdit' segments' h)
  | cons s rest ih =>
    obtain ⟨place, child, hchild, found, kept, inner⟩ :=
      (descend_cons_eq_self_iff leafEdit h).mp unchanged
    have touched := descend_touched path' leafEdit' segments' h
    refine (descend_cons_eq_self_iff leafEdit (touched.isContainer h)).mpr
      ⟨touched.hasPlace_iff.mpr place, ?_⟩
    -- The other walk edits another child, or it goes on inside the one where this walk goes on.
    by_cases elsewhere : Elsewhere s (segments'.headD leaf') v
    · have stays := touched.kept elsewhere.symm
      rw [found] at stays
      exact ⟨child, hchild, stays.of_some, touched.putChild_settled elsewhere place kept, inner⟩
    · obtain ⟨_, same, sameChild, samePut⟩ := same_of_not_elsewhere elsewhere
      obtain ⟨_, _, t, rest', first, rfl, inApart⟩ :=
        deeper_of_same_heads (p := s :: rest) same apart
      cases first
      simp only [List.headD_cons] at elsewhere same sameChild samePut
      have hw : (descend path' edit' (t :: rest') v).1 =
          putChild s (descend path' edit' rest' child).1 v := by
        have placeToo := (same_of_not_elsewhere (mt Elsewhere.symm elsewhere)).1
        have start : below t v = child := below_of_child? (sameChild.trans found) hchild
        rw [descend_cons_of_hasPlace h placeToo, start, samePut]
      refine ⟨(descend path' edit' rest' child).1, isContainer_descend path' leafEdit' rest' hchild,
        ?_, ?_, ih rest' hchild inApart inner⟩
      · rw [hw, child?_putChild place]
      · rw [hw, putChild_putChild]

end Descend

end DocumentMigration.Change
