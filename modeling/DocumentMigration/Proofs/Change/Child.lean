import DocumentMigration.Change.Apply

/-! Writing and dropping one child of a container. A write at one segment leaves the children at
other segments as they are, but an array that grows fills up with nulls: `Kept` says just that. -/
namespace DocumentMigration.Change

open Json

/-- Objects have a place for every segment, arrays for indexes only. -/
def HasPlace (segment : String) : Value → Prop
  | .array _ => (Path.index? segment).isSome
  | .object _ => True
  | _ => False

def putChild (segment : String) (child : Value) : Value → Value
  | .array items =>
    match Path.index? segment with
    | some i => .array ((grow items i).set i child)
    | none => .array items
  | .object members => .object (Object.insert segment child members)
  | v => v

/-- The member of an object goes, the element of an array becomes null. -/
def dropChild (segment : String) : Value → Value
  | .array items =>
    match Path.index? segment with
    | some i => .array (items.set i .null)
    | none => .array items
  | .object members => .object (Object.erase segment members)
  | v => v

/-- Two segments that lead to different children of a container, if to any. -/
def Elsewhere (s q : String) : Value → Prop
  | .array _ => ∀ i, Path.index? s = some i → Path.index? q ≠ some i
  | .object _ => s ≠ q
  | _ => True

/-- What is read after a write elsewhere: the same, or a null where nothing was. -/
def Kept (before after : Option Value) : Prop :=
  after = before ∨ (before = none ∧ after = some .null)

theorem Kept.refl (a : Option Value) : Kept a a := .inl rfl

theorem Kept.trans {a b c : Option Value} (first : Kept a b) (later : Kept b c) : Kept a c := by
  rcases first with rfl | ⟨rfl, rfl⟩
  · exact later
  · rcases later with rfl | ⟨impossible, _⟩
    · exact .inr ⟨rfl, rfl⟩
    · contradiction

theorem Kept.of_some {v : Value} {after : Option Value} (kept : Kept (some v) after) :
    after = some v := by
  rcases kept with same | ⟨impossible, _⟩
  · exact same
  · contradiction

/-- A value that was read before is read on below, and below a new null there is nothing. -/
theorem Kept.follow {a b : Option Value} (kept : Kept a b) (path : List String) :
    Kept (a.bind (Path.follow? path)) (b.bind (Path.follow? path)) := by
  rcases kept with rfl | ⟨rfl, rfl⟩
  · exact .refl _
  · cases path with
    | nil => exact .inr ⟨rfl, rfl⟩
    | cons s rest => exact .inl rfl

section Items

variable {items : List Value} {i j : Nat} {x y : Value}

theorem length_grow (items : List Value) (i : Nat) :
    (grow items i).length = max items.length (i + 1) := by
  simp [grow]
  omega

theorem grow_of_lt (inside : i < items.length) : grow items i = items := by
  simp [grow, Nat.sub_eq_zero_of_le (Nat.succ_le_of_lt inside)]

theorem getElem?_grow_of_lt (inside : j < items.length) : (grow items i)[j]? = items[j]? := by
  simp [grow, List.getElem?_append_left inside]

theorem kept_grow (items : List Value) (i j : Nat) : Kept items[j]? (grow items i)[j]? := by
  by_cases inside : j < items.length
  · exact .inl (getElem?_grow_of_lt inside)
  · have absent : items[j]? = none := List.getElem?_eq_none (Nat.le_of_not_lt inside)
    by_cases padded : j < (grow items i).length
    · refine .inr ⟨absent, ?_⟩
      rw [length_grow] at padded
      rw [grow, List.getElem?_append_right (Nat.le_of_not_lt inside), List.getElem?_replicate]
      simp
      omega
    · exact .inl (by rw [absent]; exact List.getElem?_eq_none (Nat.le_of_not_lt padded))

theorem getElem?_grow_getD (items : List Value) (i : Nat) :
    (grow items i)[i]?.getD .null = items[i]?.getD .null := by
  rcases kept_grow items i i with same | ⟨absent, padded⟩
  · rw [same]
  · rw [absent, padded]; rfl

theorem getElem?_set_grow (items : List Value) (i : Nat) (x : Value) :
    ((grow items i).set i x)[i]? = some x := by
  have inside : i < (grow items i).length := by rw [length_grow]; omega
  simp [inside]

theorem set_grow_set_grow (items : List Value) (i : Nat) (x y : Value) :
    (grow ((grow items i).set i y) i).set i x = (grow items i).set i x := by
  have inside : i < ((grow items i).set i y).length := by rw [List.length_set, length_grow]; omega
  rw [grow_of_lt inside, List.set_set]

theorem set_grow_eq_self_iff : (grow items i).set i x = items ↔ items[i]? = some x := by
  constructor
  · intro equal
    rw [← equal]
    exact getElem?_set_grow ..
  · intro found
    obtain ⟨inside, rfl⟩ := List.getElem?_eq_some_iff.mp found
    rw [grow_of_lt inside, List.set_getElem_self]

theorem kept_set_grow (different : i ≠ j) :
    Kept items[j]? ((grow items i).set i x)[j]? := by
  rw [List.getElem?_set_ne different]
  exact kept_grow items i j

theorem set_null_eq_self_iff :
    items.set i .null = items ↔ items[i]? = none ∨ items[i]? = some .null := by
  by_cases inside : i < items.length
  · have unchanged : (grow items i).set i .null = items ↔ items[i]? = some .null :=
      set_grow_eq_self_iff
    rw [grow_of_lt inside] at unchanged
    rw [unchanged]
    simp [inside]
  · have absent : items[i]? = none := List.getElem?_eq_none (Nat.le_of_not_lt inside)
    simp [absent, List.set_eq_of_length_le (Nat.le_of_not_lt inside)]

end Items

section Arrays

variable {s : String} {items : List Value} {i : Nat} {x : Value}

theorem hasPlace_array : HasPlace s (.array items) ↔ (Path.index? s).isSome := .rfl

theorem child?_array (index : Path.index? s = some i) : Path.child? s (.array items) = items[i]? :=
  congrArg (Option.bind · _) index

theorem child?_array_of_no_index (index : Path.index? s = none) :
    Path.child? s (.array items) = none :=
  congrArg (Option.bind · _) index

theorem putChild_array (index : Path.index? s = some i) :
    putChild s x (.array items) = .array ((grow items i).set i x) := by
  simp only [putChild, index]

theorem putChild_array_of_no_index (index : Path.index? s = none) :
    putChild s x (.array items) = .array items := by
  simp only [putChild, index]

theorem dropChild_array (index : Path.index? s = some i) :
    dropChild s (.array items) = .array (items.set i .null) := by
  simp only [dropChild, index]

theorem dropChild_array_of_no_index (index : Path.index? s = none) :
    dropChild s (.array items) = .array items := by
  simp only [dropChild, index]

/-- A write in an array leaves an array, whether the segment is an index or not. -/
theorem exists_putChild_array (s : String) (x : Value) (items : List Value) :
    ∃ items', putChild s x (.array items) = .array items' := by
  cases index : Path.index? s with
  | none => exact ⟨_, putChild_array_of_no_index index⟩
  | some i => exact ⟨_, putChild_array index⟩

theorem exists_dropChild_array (s : String) (items : List Value) :
    ∃ items', dropChild s (.array items) = .array items' := by
  cases index : Path.index? s with
  | none => exact ⟨_, dropChild_array_of_no_index index⟩
  | some i => exact ⟨_, dropChild_array index⟩

end Arrays

section Children

variable {s q : String} {v x y : Value}

@[simp] theorem hasPlace_putChild : HasPlace s (putChild q x v) ↔ HasPlace s v := by
  cases v with
  | array items =>
    obtain ⟨items', put⟩ := exists_putChild_array q x items
    rw [put, hasPlace_array, hasPlace_array]
  | _ => rfl

@[simp] theorem hasPlace_dropChild : HasPlace s (dropChild q v) ↔ HasPlace s v := by
  cases v with
  | array items =>
    obtain ⟨items', dropped⟩ := exists_dropChild_array q items
    rw [dropped, hasPlace_array, hasPlace_array]
  | _ => rfl

theorem child?_putChild (place : HasPlace s v) : Path.child? s (putChild s x v) = some x := by
  cases v with
  | array items =>
    obtain ⟨i, index⟩ := Option.isSome_iff_exists.mp place
    rw [putChild_array index, child?_array index, getElem?_set_grow]
  | object members => exact Object.get?_insert_self s x members
  | _ => exact place.elim

theorem child?_dropChild (place : HasPlace s v) :
    Path.child? s (dropChild s v) = none ∨ Path.child? s (dropChild s v) = some .null := by
  cases v with
  | array items =>
    obtain ⟨i, index⟩ := Option.isSome_iff_exists.mp place
    rw [dropChild_array index, child?_array index]
    by_cases inside : i < items.length
    · exact .inr (by simp [inside])
    · exact .inl (by simp [Nat.le_of_not_lt inside])
  | object members => exact .inl (Object.get?_erase_self s members)
  | _ => exact place.elim

theorem putChild_putChild : putChild s x (putChild s y v) = putChild s x v := by
  cases v with
  | array items =>
    cases index : Path.index? s with
    | none => rw [putChild_array_of_no_index index]
    | some i =>
      rw [putChild_array index, putChild_array index, putChild_array index, set_grow_set_grow]
  | object members => exact congrArg Value.object (Object.insert_insert_self s x y members)
  | _ => rfl

theorem dropChild_dropChild : dropChild s (dropChild s v) = dropChild s v := by
  cases v with
  | array items =>
    cases index : Path.index? s with
    | none => rw [dropChild_array_of_no_index index, dropChild_array_of_no_index index]
    | some i => rw [dropChild_array index, dropChild_array index, List.set_set]
  | object members => exact congrArg Value.object (Object.erase_erase_self s members)
  | _ => rfl

theorem Elsewhere.symm (elsewhere : Elsewhere s q v) : Elsewhere q s v := by
  cases v with
  | array items => exact fun i hq hs => elsewhere i hs hq
  | object members => exact Ne.symm elsewhere
  | _ => trivial

/-- Segments that are not elsewhere from each other lead to the same child. -/
theorem same_of_not_elsewhere (near : ¬ Elsewhere s q v) :
    HasPlace s v ∧ Path.sameSegment s q = true ∧ Path.child? q v = Path.child? s v ∧
      ∀ x, putChild q x v = putChild s x v := by
  cases v with
  | array items =>
    obtain ⟨i, index⟩ := Classical.not_forall.mp near
    obtain ⟨hs, equal⟩ := Classical.not_imp.mp index
    have hq : Path.index? q = some i := Classical.not_not.mp equal
    refine ⟨Option.isSome_iff_exists.mpr ⟨i, hs⟩, by simp [Path.sameSegment, hs, hq], ?_, ?_⟩
    · rw [child?_array hs, child?_array hq]
    · exact fun x => (putChild_array hq).trans (putChild_array hs).symm
  | object members =>
    have equal : s = q := Classical.not_not.mp near
    subst equal
    exact ⟨trivial, by simp [Path.sameSegment], rfl, fun _ => rfl⟩
  | _ => exact (near trivial).elim

theorem kept_putChild (elsewhere : Elsewhere s q v) (x : Value) :
    Kept (Path.child? q v) (Path.child? q (putChild s x v)) := by
  cases v with
  | array items =>
    cases hs : Path.index? s with
    | none => exact .inl (by rw [putChild_array_of_no_index hs])
    | some i =>
      rw [putChild_array hs]
      cases hq : Path.index? q with
      | none => exact .inl (by rw [child?_array_of_no_index hq, child?_array_of_no_index hq])
      | some j =>
        have different : i ≠ j := by rintro rfl; exact elsewhere i hs hq
        rw [child?_array hq, child?_array hq]
        exact kept_set_grow different
  | object members => exact .inl (Object.get?_insert_of_ne x members (Ne.symm elsewhere))
  | _ => exact .refl _

theorem child?_dropChild_of_elsewhere (elsewhere : Elsewhere s q v) :
    Path.child? q (dropChild s v) = Path.child? q v := by
  cases v with
  | array items =>
    cases hs : Path.index? s with
    | none => rw [dropChild_array_of_no_index hs]
    | some i =>
      rw [dropChild_array hs]
      cases hq : Path.index? q with
      | none => rw [child?_array_of_no_index hq, child?_array_of_no_index hq]
      | some j =>
        have different : i ≠ j := by rintro rfl; exact elsewhere i hs hq
        rw [child?_array hq, child?_array hq, List.getElem?_set_ne different]
  | object members => exact Object.get?_erase_of_ne members (Ne.symm elsewhere)
  | _ => rfl

end Children

/-- What one edit under a segment can make of a container, also an edit that stops. -/
inductive Touched (segment : String) (v : Value) : Value → Prop where
  | left : Touched segment v v
  | put (x : Value) : Touched segment v (putChild segment x v)
  | drop : Touched segment v (dropChild segment v)

section Touched

variable {s q : String} {v w x : Value}

theorem Touched.kept (touched : Touched s v w) (elsewhere : Elsewhere s q v) :
    Kept (Path.child? q v) (Path.child? q w) := by
  cases touched with
  | left => exact .refl _
  | put x => exact kept_putChild elsewhere x
  | drop => exact .inl (child?_dropChild_of_elsewhere elsewhere)

theorem Touched.hasPlace_iff (touched : Touched s v w) : HasPlace q w ↔ HasPlace q v := by
  cases touched with
  | left => exact .rfl
  | put x => exact hasPlace_putChild
  | drop => exact hasPlace_dropChild

theorem Touched.elsewhere_iff {a b : String} (touched : Touched s v w) :
    Elsewhere a b w ↔ Elsewhere a b v := by
  cases touched with
  | left => exact .rfl
  | put x =>
    cases v with
    | array items =>
      obtain ⟨items', put⟩ := exists_putChild_array s x items
      rw [put]
      exact .rfl
    | _ => exact .rfl
  | drop =>
    cases v with
    | array items =>
      obtain ⟨items', dropped⟩ := exists_dropChild_array s items
      rw [dropped]
      exact .rfl
    | _ => exact .rfl

theorem Touched.array {items : List Value} (touched : Touched s (.array items) w) :
    ∃ items', w = .array items' := by
  cases touched with
  | left => exact ⟨items, rfl⟩
  | put x => exact exists_putChild_array s x items
  | drop => exact exists_dropChild_array s items

/-- In an array, a write changes nothing just when the value is there. -/
theorem putChild_array_eq_self_iff {items : List Value} (place : HasPlace s (.array items)) :
    putChild s x (.array items) = .array items ↔ Path.child? s (.array items) = some x := by
  obtain ⟨i, index⟩ := Option.isSome_iff_exists.mp place
  rw [putChild_array index, child?_array index, Value.array.injEq, set_grow_eq_self_iff]

theorem dropChild_array_eq_self_iff {items : List Value} (place : HasPlace s (.array items)) :
    dropChild s (.array items) = .array items ↔ Kept none (Path.child? s (.array items)) := by
  obtain ⟨i, index⟩ := Option.isSome_iff_exists.mp place
  rw [dropChild_array index, child?_array index, Value.array.injEq, set_null_eq_self_iff]
  simp [Kept]

/-- A write that changes nothing still changes nothing after an edit elsewhere. -/
theorem Touched.putChild_settled (touched : Touched q v w) (elsewhere : Elsewhere s q v)
    (place : HasPlace s v) (settled : putChild s x v = v) : putChild s x w = w := by
  cases v with
  | array items =>
    have kept := touched.kept elsewhere.symm
    rw [(putChild_array_eq_self_iff place).mp settled] at kept
    have stays := touched.hasPlace_iff.mpr place
    obtain ⟨items', rfl⟩ := touched.array
    exact (putChild_array_eq_self_iff stays).mpr kept.of_some
  | object members =>
    have settled : Object.insert s x members = members := Value.object.inj settled
    cases touched with
    | left => exact congrArg Value.object settled
    | put y => exact congrArg Value.object (Object.insert_insert_of_ne elsewhere settled)
    | drop => exact congrArg Value.object (Object.insert_erase_of_ne elsewhere settled)
  | _ => exact place.elim

theorem Touched.dropChild_settled (touched : Touched q v w) (elsewhere : Elsewhere s q v)
    (place : HasPlace s v) (settled : dropChild s v = v) : dropChild s w = w := by
  cases v with
  | array items =>
    have kept := ((dropChild_array_eq_self_iff place).mp settled).trans
      (touched.kept elsewhere.symm)
    have stays := touched.hasPlace_iff.mpr place
    obtain ⟨items', rfl⟩ := touched.array
    exact (dropChild_array_eq_self_iff stays).mpr kept
  | object members =>
    have settled : Object.erase s members = members := Value.object.inj settled
    cases touched with
    | left => exact congrArg Value.object settled
    | put y => exact congrArg Value.object (Object.erase_insert_of_ne elsewhere settled)
    | drop => exact congrArg Value.object (Object.erase_erase_of_settled settled)
  | _ => exact place.elim

end Touched

end DocumentMigration.Change
