import DocumentMigration.Proofs.Change.Growth

/-! Deletes of what is not there. Where the parent of the leaf stands, nothing happens. Where it
does not, a delete makes it: the walk to a leaf is one and the same for all operations, so that a
delete leaves behind what an update would have written there, objects inside one another with no
leaf. -/
namespace DocumentMigration

open Json

namespace Path

/-- The path of some segments. -/
def ofSegments (segments : List String) : String := String.intercalate "." segments

theorem not_mem_of_mem_splitOn {xs l : List Char} {separator : Char}
    (member : l ∈ xs.splitOn separator) : separator ∉ l := by
  induction xs generalizing l with
  | nil =>
    rw [List.splitOn_nil, List.mem_singleton] at member
    simp [member]
  | cons x xs ih =>
    rw [List.splitOn_cons_eq_if_modifyHead] at member
    split at member
    · rcases List.mem_cons.mp member with rfl | later
      · exact List.not_mem_nil
      · exact ih later
    · next other =>
      obtain ⟨first, rest, parts⟩ := List.exists_cons_of_ne_nil (List.splitOn_ne_nil separator xs)
      rw [parts] at ih member
      rcases List.mem_cons.mp member with rfl | later
      · have same : x ≠ separator := by simpa using other
        simpa [Ne.symm same] using ih List.mem_cons_self
      · exact ih (List.mem_cons_of_mem _ later)

/-- Some segments of a path make a path that has these segments. -/
theorem segments_ofSegments {path : String} {segments : List String}
    (pieces : ∀ s ∈ segments, s ∈ Path.segments path) (nonempty : segments ≠ []) :
    Path.segments (ofSegments segments) = segments := by
  have clear : ∀ l ∈ segments.map String.toList, '.' ∉ l := by
    refine List.forall_mem_map.mpr fun s member => ?_
    obtain ⟨l, part, rfl⟩ := List.mem_map.mp (pieces s member)
    rw [String.toList_ofList]
    exact not_mem_of_mem_splitOn part
  have split := List.splitOn_intercalate '.' clear (by simpa using nonempty)
  rw [Path.segments, ofSegments, String.toList_intercalate]
  refine (congrArg (List.map String.ofList) split).trans ?_
  simp

end Path

namespace Change

/-- The objects that a walk makes along some segments, the innermost one empty. -/
def scaffold : List String → Value
  | [] => .object []
  | s :: rest => .object [(s, scaffold rest)]

/-- Some segments lead to a container that has a place for the next one, and no container is
there. -/
def Gap (front : List String) (s : String) (v : Value) : Prop :=
  ∃ u, Path.follow? front v = some u ∧ HasPlace s u ∧
    ∀ child, Path.child? s u = some child → child.isContainer = false

section Walk

variable {path leaf s : String} {front rest segments : List String} {v u x : Value}

/-- A walk to a leaf to be removed, from an empty object on. -/
theorem descend_removeLeaf_empty (path leaf : String) (segments : List String) :
    descend path (removeLeaf path leaf) segments (.object []) = (scaffold segments, none) := by
  induction segments with
  | nil => rfl
  | cons s rest ih =>
    have container : (Value.object []).isContainer = true := rfl
    have start : below s (.object []) = .object [] := rfl
    rw [descend_cons_of_hasPlace container (s := s) trivial, start, ih]
    rfl

theorem isContainer_scaffold (segments : List String) : (scaffold segments).isContainer := by
  cases segments <;> rfl

theorem follow?_scaffold (segments : List String) (leaf : String) :
    Path.follow? (segments ++ [leaf]) (scaffold segments) = none := by
  induction segments with
  | nil => rfl
  | cons s rest ih =>
    have read : Path.child? s (scaffold (s :: rest)) = some (scaffold rest) := by
      simp [scaffold, Path.child?, Object.get?]
    rw [List.cons_append, Path.follow?, read]
    exact ih

/-- Below a gap a walk finds an empty object. -/
theorem below_eq_empty (bare : ∀ child, Path.child? s v = some child → child.isContainer = false) :
    below s v = .object [] := by
  rw [below]
  cases found : Path.child? s v with
  | none => rfl
  | some child => simp [container, bare child found]

/-- What stands at some segments: a container, a block or a gap on the way. -/
theorem container_or_gap (segments : List String) (h : v.isContainer) :
    (∃ u, Path.follow? segments v = some u ∧ u.isContainer) ∨
      (∃ segment, Blocked segments segment v) ∨
      ∃ front s rest, segments = front ++ s :: rest ∧ Gap front s v := by
  induction segments generalizing v with
  | nil => exact .inl ⟨v, rfl, h⟩
  | cons s rest ih =>
    by_cases place : HasPlace s v
    · by_cases inner : ∃ child, Path.child? s v = some child ∧ child.isContainer
      · obtain ⟨child, found, hchild⟩ := inner
        have step (path : List String) : Path.follow? (s :: path) v = Path.follow? path child := by
          rw [Path.follow?, found, Option.bind_some]
        rcases ih hchild with ⟨u, later, hu⟩ | ⟨segment, blocked⟩ | ⟨front, t, tail, rfl, u, gap⟩
        · exact .inl ⟨u, (step rest).trans later, hu⟩
        · exact .inr (.inl ⟨segment, (blocked_cons_iff h).mpr (.inr ⟨child, found, blocked⟩)⟩)
        · exact .inr (.inr ⟨s :: front, t, tail, rfl, u, (step front).trans gap.1, gap.2⟩)
      · refine .inr (.inr ⟨[], s, rest, rfl, v, rfl, place, fun child found => ?_⟩)
        exact Bool.eq_false_iff.mpr fun hchild => inner ⟨child, found, hchild⟩
    · exact .inr (.inl ⟨s, (blocked_cons_iff h).mpr (.inl ⟨rfl, place⟩)⟩)

end Walk

section Deletes

variable {c d : AttributeChange} {document : Object} {front rest : List String} {s leaf : String}
  {v u x : Value}

/-- An absent leaf is removed from its parent without effect. -/
theorem removeLeaf_of_absent (path : String) (place : HasPlace leaf u)
    (absent : Path.child? leaf u = none) : removeLeaf path leaf u = (u, none) := by
  rw [removeLeaf_of_hasPlace place]
  cases u with
  | array items => rw [(dropChild_array_eq_self_iff place).mpr (.inl absent)]
  | object members =>
    have missing : Object.erase leaf members = members := by
      refine Object.erase_eq_self_iff.mpr fun m member same => ?_
      have found : leaf ∈ Object.keys members := same ▸ List.mem_map_of_mem member
      have absent : Object.get? leaf members = none := absent
      simp [← Object.isSome_get?, absent] at found
    rw [dropChild, missing]
  | _ => exact place.elim

theorem applyOne_of_delete (deletes : c.operation = .delete) (valid : Path.isValid c.path)
    (v : Value) :
    applyOne c v =
      descend c.path (removeLeaf c.path (leafOf c.path)) (Path.segments c.path).dropLast v := by
  rw [applyOne_of_leaf (leafOf_ne_empty valid), editOf, deletes]

/-- An update of a place in a container that is there. -/
theorem applyOne_of_update (segments : Path.segments d.path = front ++ [s]) (named : s ≠ "")
    (updates : d.operation = .update) (writes : d.newValue = some x)
    (found : Path.follow? front v = some u) (place : HasPlace s u) :
    applyOne d v = (putAt front (putChild s x u) v, none) := by
  have leaf : leafOf d.path = s := by simp [leafOf, segments]
  have parents : (Path.segments d.path).dropLast = front ++ [] := by simp [segments]
  rw [applyOne_of_leaf (by simpa [leaf] using named), parents,
    descend_append found (isContainer_of_hasPlace place), descend, editOf, updates, writes, leaf]
  exact congrArg (fun made : Edited => (putAt front made.1 v, made.2)) (setLeaf_of_hasPlace place)

theorem applyOne_of_parent (deletes : c.operation = .delete) (valid : Path.isValid c.path)
    (canonical : v.Canonical) (absent : Path.follow? (Path.segments c.path) v = none)
    (found : Path.follow? (Path.segments c.path).dropLast v = some u)
    (place : HasPlace (leafOf c.path) u) : applyOne c v = (v, none) := by
  have missing : Path.child? (leafOf c.path) u = none := by
    rw [segments_eq, Path.follow?_append, found, Option.bind_some, Path.follow?] at absent
    cases read : Path.child? (leafOf c.path) u with
    | none => rfl
    | some x => simp [read] at absent
  rw [applyOne_of_delete deletes valid, ← List.append_nil (Path.segments c.path).dropLast,
    descend_append found (isContainer_of_hasPlace place), descend,
    removeLeaf_of_absent c.path place missing, putAt_eq_self canonical found]

/-- A delete over a gap makes the objects that are missing for its leaf to have a parent. -/
theorem applyOne_of_gap (deletes : c.operation = .delete) (valid : Path.isValid c.path)
    (split : (Path.segments c.path).dropLast = front ++ s :: rest)
    (found : Path.follow? front v = some u) (place : HasPlace s u)
    (bare : ∀ child, Path.child? s u = some child → child.isContainer = false) :
    applyOne c v = (putAt front (putChild s (scaffold rest) u) v, none) := by
  have hu := isContainer_of_hasPlace place
  rw [applyOne_of_delete deletes valid, split, descend_append found hu,
    descend_cons_of_hasPlace hu place, below_eq_empty bare, descend_removeLeaf_empty]

theorem mem_segments_of_split (split : (Path.segments c.path).dropLast = front ++ s :: rest)
    {t : String} (member : t ∈ front ++ [s]) : t ∈ Path.segments c.path := by
  refine List.mem_of_mem_dropLast ?_
  rw [split]
  rw [List.append_cons]
  exact List.mem_append_left rest member

theorem segments_ofSegments_of_split
    (split : (Path.segments c.path).dropLast = front ++ s :: rest) :
    Path.segments (Path.ofSegments (front ++ [s])) = front ++ [s] :=
  Path.segments_ofSegments (fun _ => mem_segments_of_split split) (by simp)

theorem ne_empty_of_split (valid : Path.isValid c.path)
    (split : (Path.segments c.path).dropLast = front ++ s :: rest) : s ≠ "" := by
  simpa using List.all_eq_true.mp valid s (mem_segments_of_split split (by simp))

theorem Blocked.append {segments : List String} (blocked : Blocked segments s v)
    (later : List String) : Blocked (segments ++ later) s v := by
  obtain ⟨front, rest, items, split, found, index⟩ := blocked
  exact ⟨front, rest ++ later, items, by rw [split, List.append_assoc, List.cons_append], found,
    index⟩

/-- In an array at the parent of a leaf that is no index, the leaf is blocked. -/
theorem blocked_of_parent (path : String) (hu : u.isContainer)
    (found : Path.follow? (Path.segments path).dropLast v = some u)
    (unplaced : ¬ HasPlace (leafOf path) u) : Blocked (Path.segments path) (leafOf path) v := by
  cases u with
  | array items =>
    exact ⟨_, [], items, segments_eq path, found, Option.not_isSome_iff_eq_none.mp unplaced⟩
  | object members => exact (unplaced trivial).elim
  | _ => contradiction

/-- A delete that comes to a gap does what an update would do that writes the missing parents there.
It leaves nothing at its path, and has changed the document. -/
theorem exists_apply_of_gap (deletes : c.operation = .delete) (valid : Path.isValid c.path)
    (split : (Path.segments c.path).dropLast = front ++ s :: rest)
    (gap : Gap front s (.object document)) :
    ∃ after, apply [c] document = (after, none) ∧
      apply [⟨Path.ofSegments (front ++ [s]), .update, none, some (scaffold rest)⟩] document =
        (after, none) ∧
      Path.read? after (Path.ofSegments (front ++ [s])) = some (scaffold rest) ∧
      Path.read? after c.path = none ∧ after ≠ document := by
  obtain ⟨u, found, place, bare⟩ := gap
  have segments := segments_ofSegments_of_split split
  have named := ne_empty_of_split valid split
  have whole : Path.segments c.path = front ++ s :: (rest ++ [leafOf c.path]) := by
    rw [segments_eq, split, List.append_assoc, List.cons_append]
  have deleted := applyOne_of_gap deletes valid split found place bare
  obtain ⟨after, object⟩ := applyAll_object [c] document
  rw [applyAll_singleton, deleted] at object
  have object : putAt front (putChild s (scaffold rest) u) (.object document) = .object after :=
    object
  have filled := follow?_putAt_putChild found place [] (scaffold rest)
  have empty := follow?_putAt_putChild found place (rest ++ [leafOf c.path]) (scaffold rest)
  rw [object] at deleted filled empty
  refine ⟨after, ?_, ?_, ?_, ?_, ?_⟩
  · rw [apply_eq_iff, applyAll_singleton, deleted]
  · rw [apply_eq_iff, applyAll_singleton, ← object]
    exact applyOne_of_update segments named rfl rfl found place
  · rw [Path.read?, segments, filled, Path.follow?_nil]
  · rw [Path.read?, whole, empty, follow?_scaffold]
  · rintro rfl
    -- Before there was no container at the gap, and afterwards there is.
    rw [Path.follow?_append, found, Option.bind_some, Path.follow?] at filled
    obtain ⟨child, here, same⟩ := Option.bind_eq_some_iff.mp filled
    cases same
    have scalar := bare _ here
    rw [isContainer_scaffold] at scalar
    cases scalar

theorem needed_of_delete (deletes : c.operation = .delete) (valid : Path.isValid c.path) :
    needed c = (Path.segments c.path).dropLast := by
  rw [needed_of_leaf (leafOf_ne_empty valid), if_pos deletes]

/-- An update at some of the segments needs them all. -/
theorem needed_of_update (valid : Path.isValid c.path)
    (split : (Path.segments c.path).dropLast = front ++ s :: rest) (old new : Option Value) :
    needed ⟨Path.ofSegments (front ++ [s]), .update, old, new⟩ = front ++ [s] := by
  have segments := segments_ofSegments_of_split split
  have leaf : leafOf (Path.ofSegments (front ++ [s])) = s := by simp [leafOf, segments]
  have named : s.isEmpty = false := by simpa using ne_empty_of_split valid split
  have writes : Operation.update ≠ .delete := by decide
  rw [needed_of_leaf (by rwa [leaf]), if_neg writes, segments]

/-- Up to a block nothing is made, and past it nothing is looked for. -/
theorem findsRoom_of_blocked (capacity : Capacity) {segments : List String}
    (blocked : Blocked segments s v) : findsRoom capacity segments.dropLast v := by
  obtain ⟨front, rest, items, rfl, found, index⟩ := blocked
  rw [List.dropLast_append_of_ne_nil (List.cons_ne_nil s rest), findsRoom_append found]
  cases rest with
  | nil => rfl
  | cons t rest =>
    have absent : Path.child? s (.array items) = none := by
      rw [Path.child?, index]
      rfl
    rw [List.dropLast_cons_cons, findsRoom, hasRoomAt, index, absent]
    exact findsRoom_of_scalar rfl

/-- At a gap there may be no room for an element, but what is made below it has no arrays. -/
theorem findsRoom_of_gap (capacity : Capacity) (found : Path.follow? front v = some u)
    (bare : ∀ child, Path.child? s u = some child → child.isContainer = false) :
    findsRoom capacity (front ++ s :: rest) v = findsRoom capacity (front ++ [s]) v := by
  have below (rest : List String) :
      findsRoom capacity rest ((Path.child? s u).getD .null) := by
    cases child : Path.child? s u with
    | none => exact findsRoom_of_scalar rfl
    | some x => exact findsRoom_of_scalar (bare x child)
  rw [findsRoom_append found, findsRoom_append found, findsRoom, findsRoom, below, below]

/-- A delete of what is not there is blocked, and then changes nothing. Or the parent of its leaf is
there, and it changes nothing either. Or it comes to a gap and does what an update would do that
writes the missing parents there, which hold nothing but each other: where a scalar stood, it is
gone, and where an index was past the end, the array has grown, unless it cannot. -/
theorem delete_absent (capacity : Capacity) (deletes : c.operation = .delete)
    (valid : Path.isValid c.path) (canonical : (Value.object document).Canonical)
    (absent : Path.read? document c.path = none) :
    (∃ segment, Blocked (Path.segments c.path) segment (.object document) ∧
      execute capacity [c] document = some (document, some (.arrayIndex c.path segment))) ∨
    (∃ parent, Path.follow? (Path.segments c.path).dropLast (.object document) = some parent ∧
      parent.isContainer ∧ execute capacity [c] document = some (document, none)) ∨
    ∃ front s rest, (Path.segments c.path).dropLast = front ++ s :: rest ∧
      Gap front s (.object document) ∧
      execute capacity [c] document = execute capacity
        [⟨Path.ofSegments (front ++ [s]), .update, none, some (scaffold rest)⟩] document ∧
      ∀ after fault, execute capacity [c] document = some (after, fault) → fault = none ∧
        Path.read? after (Path.ofSegments (front ++ [s])) = some (scaffold rest) ∧
        Path.read? after c.path = none ∧ after ≠ document := by
  have needs := needed_of_delete deletes valid
  by_cases blocked : ∃ segment, Blocked (Path.segments c.path) segment (.object document)
  · obtain ⟨segment, blocked⟩ := blocked
    refine .inl ⟨segment, blocked, ?_⟩
    have stopped : apply [c] document = (document, some (.arrayIndex c.path segment)) := by
      rw [apply_eq_iff, applyAll_singleton]
      exact applyOne_of_blocked (leafOf_ne_empty valid) rfl canonical blocked
    rw [execute_singleton, needs, if_pos (findsRoom_of_blocked capacity blocked), stopped]
  refine .inr ?_
  rcases container_or_gap (Path.segments c.path).dropLast (v := .object document) rfl with
    ⟨u, found, hu⟩ | ⟨segment, early⟩ | ⟨front, s, rest, split, gap⟩
  · have place : HasPlace (leafOf c.path) u := by
      by_contra unplaced
      exact blocked ⟨_, blocked_of_parent c.path hu found unplaced⟩
    have same : apply [c] document = (document, none) := by
      rw [apply_eq_iff, applyAll_singleton]
      exact applyOne_of_parent deletes valid canonical absent found place
    have room : findsRoom capacity ((Path.segments c.path).dropLast ++ []) (.object document) :=
      findsRoom_append found
    rw [List.append_nil] at room
    exact .inl ⟨u, found, hu, by rw [execute_singleton, needs, if_pos room, same]⟩
  · have later := early.append [leafOf c.path]
    rw [← segments_eq] at later
    exact (blocked ⟨segment, later⟩).elim
  · obtain ⟨after, deleted, updated, filled, emptied, changed⟩ :=
      exists_apply_of_gap deletes valid split gap
    obtain ⟨u, found, -, bare⟩ := id gap
    have needsToo := needed_of_update valid split none (some (scaffold rest))
    refine .inr ⟨front, s, rest, split, gap, ?_, ?_⟩
    · rw [execute_singleton, execute_singleton, deleted, updated, needs, split, needsToo,
        findsRoom_of_gap capacity found bare]
    · intro result fault ended
      have same := (apply_of_execute ended).symm.trans deleted
      cases same
      exact ⟨rfl, filled, emptied, changed⟩

end Deletes

end Change

namespace Sample

/-- A reading with its unit in one scalar. -/
def gauge : Object := [("level", .string "3 cm")]

theorem canonical_gauge : (Value.object gauge).Canonical :=
  ⟨List.pairwise_singleton _ _, trivial, trivial⟩

def dropUnit : AttributeChange := { path := "level.unit", operation := .delete }

theorem absent_unit : Path.read? gauge dropUnit.path = none := by decide +kernel

theorem valid_unit : Path.isValid dropUnit.path := by decide +kernel

/-- The scalar stands where the parent of the unit is missing. -/
theorem delete_absent_of_unit :
    ∃ front s rest, (Path.segments dropUnit.path).dropLast = front ++ s :: rest ∧
      Change.Gap front s (.object gauge) ∧
      Change.execute capacity
        [⟨Path.ofSegments (front ++ [s]), .update, none, some (Change.scaffold rest)⟩] gauge =
          some ([("level", .object [])], none) ∧
      Path.read? [("level", .object [])] (Path.ofSegments (front ++ [s])) =
        some (Change.scaffold rest) := by
  have ran : Change.execute capacity [dropUnit] gauge = some ([("level", .object [])], none) := rfl
  rcases Change.delete_absent capacity rfl valid_unit canonical_gauge absent_unit with
    ⟨segment, -, failed⟩ | ⟨parent, -, -, same⟩ | ⟨front, s, rest, split, gap, updated, ended⟩
  · cases ran.symm.trans failed
  · cases ran.symm.trans same
  · exact ⟨front, s, rest, split, gap, updated.symm.trans ran, (ended _ _ ran).2.1⟩

/-- Deleting the unit that the scalar does not have destroys the scalar, whatever the capacity. -/
theorem delete_destroys_scalar :
    ¬ ∃ capacity : Change.Capacity, ∀ (c : AttributeChange) (document : Object),
      c.operation = .delete → Path.isValid c.path → (Value.object document).Canonical →
      Path.read? document c.path = none →
      (∃ after segment, Change.execute capacity [c] document =
          some (after, some (.arrayIndex c.path segment))) ∨
        Change.execute capacity [c] document = some (document, none) := by
  rintro ⟨capacity, claimed⟩
  have ran : Change.execute capacity [dropUnit] gauge = some ([("level", .object [])], none) := rfl
  rcases claimed dropUnit gauge rfl valid_unit canonical_gauge absent_unit with
    ⟨_, _, failed⟩ | same
  · cases ran.symm.trans failed
  · cases ran.symm.trans same

end Sample

end DocumentMigration
