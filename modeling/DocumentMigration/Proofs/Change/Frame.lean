import DocumentMigration.Proofs.Change.Apply

/-! The frame of a run of changes: a value apart from the paths of all changes stays as it is,
however the run ends. Where nothing was, nothing comes to be, but that an array filled up to an
index holds nulls below it. -/
namespace DocumentMigration.Change

open Json

/-- An array stands at the end of these segments. -/
def ArrayAt (segments : List String) (v : Value) : Prop :=
  ∃ items, Path.follow? segments v = some (.array items)

/-- Nothing was read at a path, and now a null is, since the array that its index leads into has
grown past it. -/
structure Padded (path : String) (before after : Value) : Prop where
  absent : Path.follow? (Path.segments path) before = none
  null : Path.follow? (Path.segments path) after = some .null
  grown : ∃ items items' i,
    Path.follow? (Path.segments path).dropLast before = some (.array items) ∧
    Path.follow? (Path.segments path).dropLast after = some (.array items') ∧
    Path.index? (leafOf path) = some i ∧ items.length ≤ i ∧ i < items'.length

/-- What an edit elsewhere does at the parent of a place: arrays stay there and none comes to be,
and only the elements of an array can be new. -/
structure Framed (parent : List String) (segment : String) (v w : Value) : Prop where
  array : ArrayAt parent w ↔ ArrayAt parent v
  same : ¬ ArrayAt parent v →
    Path.follow? (parent ++ [segment]) w = Path.follow? (parent ++ [segment]) v

section Framed

variable {parent : List String} {s t segment : String} {u v w x : Value}

theorem Framed.refl (v : Value) : Framed parent segment v v := ⟨.rfl, fun _ => rfl⟩

theorem Framed.trans (first : Framed parent segment u v) (later : Framed parent segment v w) :
    Framed parent segment u w where
  array := later.array.trans first.array
  same none := (later.same (mt first.array.mp none)).trans (first.same none)

theorem follow?_cons (s : String) (rest : List String) (v : Value) :
    Path.follow? (s :: rest) v = (Path.child? s v).bind (Path.follow? rest) := rfl

/-- Below a child that is kept, or is a new null, nothing is new. -/
theorem Kept.framed (kept : Kept (Path.child? s v) (Path.child? s w)) :
    Framed (s :: parent) segment v w := by
  rcases kept with same | ⟨absent, null⟩
  · exact ⟨by simp [ArrayAt, follow?_cons, same], fun _ => by simp [follow?_cons, same]⟩
  · constructor
    · rw [ArrayAt, ArrayAt, follow?_cons, follow?_cons, absent, null]
      cases parent <;> simp [Path.follow?, Path.child?]
    · intro _
      rw [List.cons_append, follow?_cons, follow?_cons, absent, null]
      cases parent <;> rfl

theorem arrayAt_nil : ArrayAt [] v ↔ ∃ items, v = .array items := by
  simp [ArrayAt]

/-- An edit of another child of the container. -/
theorem Touched.framed (touched : Touched s v w) (h : v.isContainer)
    (elsewhere : Elsewhere s (parent.headD segment) v) : Framed parent segment v w := by
  cases parent with
  | cons t parent => exact (touched.kept elsewhere).framed
  | nil =>
    cases v with
    | array items =>
      obtain ⟨items', rfl⟩ := touched.array
      exact ⟨by simp [arrayAt_nil], fun absent => (absent ⟨items, rfl⟩).elim⟩
    | object members =>
      have read : Path.child? segment w = Path.child? segment (.object members) := by
        cases touched with
        | left => rfl
        | put x => exact Object.get?_insert_of_ne x members (Ne.symm elsewhere)
        | drop => exact child?_dropChild_of_elsewhere elsewhere
      obtain ⟨members', rfl⟩ := touched.object
      refine ⟨by simp [arrayAt_nil], fun _ => ?_⟩
      rw [List.nil_append, follow?_cons, follow?_cons, read]
    | _ => contradiction

/-- A walk goes on below a segment, where there is an array just if there was one. -/
theorem arrayAt_below : ArrayAt parent (below s v) ↔ ArrayAt (s :: parent) v := by
  cases parent with
  | cons t parent => rw [ArrayAt, ArrayAt, follow?_below (List.cons_ne_nil t parent)]
  | nil =>
    rw [arrayAt_nil, ArrayAt, below, follow?_cons]
    rcases Path.child? s v with _ | child
    · simp [container, Value.isContainer]
    · cases child <;> simp [container, Value.isContainer]

/-- The same child under two names, before and after a write into it. -/
theorem Framed.below (framed : Framed parent segment (below s v) x) (near : ¬ Elsewhere s t v) :
    Framed (t :: parent) segment v (putChild s x v) := by
  have sameChild : Path.child? t v = Path.child? s v := (same_of_not_elsewhere near).2.2.1
  have start (rest : List String) : Path.follow? (t :: rest) v = Path.follow? (s :: rest) v := by
    rw [follow?_cons, follow?_cons, sameChild]
  have before : ArrayAt (t :: parent) v ↔ ArrayAt parent (Change.below s v) := by
    rw [arrayAt_below, ArrayAt, ArrayAt, start]
  constructor
  · rw [before, ← framed.array, ArrayAt, ArrayAt, follow?_putChild_of_near near]
  · intro elsewhere
    rw [List.cons_append, follow?_putChild_of_near near, framed.same (mt before.mpr elsewhere),
      follow?_below (by simp), start]

end Framed

section Runs

variable {path leaf : String} {edit : Value → Edited} {parent : List String} {segment : String}
  {c : AttributeChange} {changes : List AttributeChange} {document : Object} {q : String}
  {v : Value}

theorem framed_descend (leafEdit : LeafEdit leaf edit) (segments : List String)
    (h : v.isContainer)
    (apart : Path.overlapping (segments ++ [leaf]) (parent ++ [segment]) = false) :
    Framed parent segment v (descend path edit segments v).1 := by
  induction segments generalizing parent v with
  | nil =>
    have elsewhere : Elsewhere leaf (parent.headD segment) v := by
      refine Classical.not_not.mp fun near => ?_
      have same := (same_of_not_elsewhere near).2.1
      cases parent <;> simp_all [Path.overlapping]
    exact (leafEdit.touched h).framed h elsewhere
  | cons s rest ih =>
    by_cases elsewhere : Elsewhere s (parent.headD segment) v
    · exact (descend_touched path leafEdit (s :: rest) h).framed h elsewhere
    -- Both paths go on in the same child, so the place is further down.
    obtain ⟨place, same, -⟩ := same_of_not_elsewhere elsewhere
    obtain ⟨_, _, t, parent', first, rfl, deeper⟩ :=
      deeper_of_same_heads (p := s :: rest) same apart
    cases first
    rw [descend_cons_of_hasPlace h place]
    exact (ih (isContainer_below s v) deeper).below elsewhere

theorem framed_applyOne (h : v.isContainer) (apart : Path.overlap c.path q = false) :
    Framed (Path.segments q).dropLast (leafOf q) v (applyOne c v).1 := by
  by_cases unnamed : (leafOf c.path).isEmpty = true
  · rw [applyOne_of_no_leaf unnamed]
    exact .refl v
  · rw [applyOne_of_leaf (Bool.eq_false_iff.mpr unnamed)]
    rw [Path.overlap, segments_eq c.path, segments_eq q] at apart
    exact framed_descend (editOf_leafEdit ..) _ h apart

theorem framed_applyAll (h : v.isContainer)
    (apart : ∀ c ∈ changes, Path.overlap c.path q = false) :
    Framed (Path.segments q).dropLast (leafOf q) v (applyAll changes v).1 := by
  induction changes generalizing v with
  | nil => exact .refl v
  | cons c changes ih =>
    obtain ⟨first, later⟩ := List.forall_mem_cons.mp apart
    have framed := framed_applyOne h first
    by_cases done : (applyOne c v).2 = none
    · rw [applyAll_cons_of_done done]
      exact framed.trans (ih (isContainer_applyOne c h) later)
    · rw [applyAll_cons_of_failed done]
      exact framed

theorem follow?_segments (q : String) (v : Value) :
    Path.follow? (Path.segments q) v =
      (Path.follow? (Path.segments q).dropLast v).bind (Path.child? (leafOf q)) := by
  have last (w : Value) : Path.follow? [leafOf q] w = Path.child? (leafOf q) w := by
    rw [follow?_cons]
    cases Path.child? (leafOf q) w <;> rfl
  have split := congrArg (Path.follow? · v) (segments_eq q)
  simpa only [Path.follow?_append, funext last] using split

/-- What is new apart from the paths of a run is the padding of an array. -/
theorem padded_of_kept {w : Value}
    (framed : Framed (Path.segments q).dropLast (leafOf q) v w)
    (absent : Path.follow? (Path.segments q) v = none)
    (null : Path.follow? (Path.segments q) w = some .null) : Padded q v w := by
  by_cases array : ArrayAt (Path.segments q).dropLast v
  · obtain ⟨items, before⟩ := array
    obtain ⟨items', after⟩ := framed.array.mpr ⟨items, before⟩
    refine ⟨absent, null, ?_⟩
    rw [follow?_segments, before, Option.bind_some] at absent
    rw [follow?_segments, after, Option.bind_some] at null
    obtain ⟨i, index, found⟩ := Option.bind_eq_some_iff.mp null
    have missing : items[i]? = none := by
      simpa [Path.child?, index] using absent
    exact ⟨items, items', i, before, after, index, List.getElem?_eq_none_iff.mp missing,
      (List.getElem?_eq_some_iff.mp found).1⟩
  · have same := framed.same array
    rw [← segments_eq] at same
    rw [same, absent] at null
    contradiction

/-- Apart from the paths of a run of changes, what is read before is read afterwards, also when the
run stops in the middle. Where nothing is read before, nothing is read afterwards, or a null with
which an array was filled up. -/
theorem apply_frame (apart : ∀ c ∈ changes, Path.overlap c.path q = false) :
    (∀ v, Path.read? document q = some v → Path.read? (apply changes document).1 q = some v) ∧
      (Path.read? document q = none →
        Path.read? (apply changes document).1 q = none ∨
          Path.read? (apply changes document).1 q = some .null ∧
            Padded q (.object document) (.object (apply changes document).1)) := by
  have root : (.object (apply changes document).1 : Value) =
      (applyAll changes (.object document)).1 := by
    obtain ⟨result, object⟩ := applyAll_object changes document
    cases run : applyAll changes (.object document) with
    | mk root fault =>
      rw [run] at object
      have object : root = .object result := object
      rw [apply, run, object]
      rfl
  have kept := kept_applyAll (v := .object document) rfl apart
  have framed := framed_applyAll (v := .object document) rfl apart
  rw [← root] at kept framed
  constructor
  · intro v found
    rw [← Path.read?, found] at kept
    exact kept.of_some
  · intro absent
    rcases kept with same | ⟨-, null⟩
    · exact .inl (same.trans absent)
    · exact .inr ⟨null, padded_of_kept framed absent null⟩

end Runs

end DocumentMigration.Change

namespace DocumentMigration.Sample

open Json

def roster : Object :=
  [("names", .object [("first", .string "Ada")]), ("ranks", .array [.string "a"]),
    ("size", .bool true)]

/-- Fills an array up, makes a scalar an object, drops a member, and stops at an array that has no
place for a name, before the last change. -/
def rosterChanges : List AttributeChange :=
  [{ path := "ranks.3.title", operation := .create, newValue := some (.string "x") },
    { path := "size.in.cm", operation := .update },
    { path := "names.last", operation := .delete },
    { path := "ranks.top", operation := .update },
    { path := "names.first", operation := .delete }]

theorem apply_frame_of_roster :
    (∀ c ∈ rosterChanges, Path.overlap c.path "ranks.01" = false) ∧
      (Change.apply rosterChanges roster).2 = some (.arrayIndex "ranks.top" "top") ∧
      Path.read? roster "ranks.01" = none ∧
      Change.Padded "ranks.01" (.object roster)
        (.object (Change.apply rosterChanges roster).1) := by
  have apart : ∀ c ∈ rosterChanges, Path.overlap c.path "ranks.01" = false := by decide
  have absent : Path.read? roster "ranks.01" = none := rfl
  refine ⟨apart, rfl, absent, ?_⟩
  rcases (Change.apply_frame apart).2 absent with unread | padded
  · cases unread
  · exact padded.2

end DocumentMigration.Sample
