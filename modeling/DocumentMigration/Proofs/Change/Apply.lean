import DocumentMigration.Proofs.Change.Edit

/-! Runs of attribute changes. A later change whose path is apart from a place keeps what is read
there, and a run of changes that are apart from each other leaves nothing for a second run to do. -/
namespace DocumentMigration.Change

open Json

variable {c d : AttributeChange} {changes : List AttributeChange} {v w : Value}

/-- What a change does to the parent of its leaf. -/
def editOf (c : AttributeChange) (leaf : String) : Value → Edited :=
  match c.operation with
  | .delete => removeLeaf c.path leaf
  | _ => setLeaf c.path leaf (c.newValue.getD .null)

theorem editOf_leafEdit (c : AttributeChange) (leaf : String) : LeafEdit leaf (editOf c leaf) := by
  cases h : c.operation
  case delete => simpa [editOf, h] using removeLeaf_leafEdit c.path leaf
  all_goals simpa [editOf, h] using setLeaf_leafEdit c.path leaf (c.newValue.getD .null)

def leafOf (path : String) : String := (Path.segments path).getLastD ""

theorem segments_eq (path : String) :
    Path.segments path = (Path.segments path).dropLast ++ [leafOf path] := by
  have nonempty : Path.segments path ≠ [] := by
    simp [Path.segments, List.splitOn_ne_nil]
  rw [leafOf, List.getLastD_eq_getLast?, List.getLast?_eq_some_getLast nonempty, Option.getD_some,
    List.dropLast_concat_getLast]

theorem leafOf_ne_empty (valid : Path.isValid path) : (leafOf path).isEmpty = false := by
  have member : leafOf path ∈ Path.segments path := by
    rw [segments_eq]
    simp
  simpa using List.all_eq_true.mp valid _ member

theorem applyOne_of_leaf (named : (leafOf c.path).isEmpty = false) :
    applyOne c v =
      descend c.path (editOf c (leafOf c.path)) (Path.segments c.path).dropLast v := by
  cases h : c.operation <;> simp [applyOne, editOf, leafOf, h] at named ⊢ <;> simp [named]

theorem applyOne_of_no_leaf (unnamed : (leafOf c.path).isEmpty = true) :
    applyOne c v = (v, none) := by
  simp [applyOne, leafOf] at unnamed ⊢
  simp [unnamed]

/-- One change edits at most one child of the document. -/
theorem applyOne_touched (c : AttributeChange) (h : v.isContainer) :
    ∃ s, Touched s v (applyOne c v).1 := by
  by_cases unnamed : (leafOf c.path).isEmpty = true
  · exact ⟨"", by rw [applyOne_of_no_leaf unnamed]; exact .left⟩
  · rw [applyOne_of_leaf (Bool.eq_false_iff.mpr unnamed)]
    exact ⟨_, descend_touched _ (editOf_leafEdit ..) _ h⟩

theorem isContainer_applyOne (c : AttributeChange) (h : v.isContainer) :
    (applyOne c v).1.isContainer :=
  (applyOne_touched c h).elim fun _ touched => touched.isContainer h

/-- However a change ends, what is read apart from its path is kept. -/
theorem kept_applyOne (c : AttributeChange) (h : v.isContainer)
    (apart : Path.overlap c.path q = false) :
    Kept (Path.follow? (Path.segments q) v) (Path.follow? (Path.segments q) (applyOne c v).1) := by
  by_cases unnamed : (leafOf c.path).isEmpty = true
  · rw [applyOne_of_no_leaf unnamed]
    exact .refl _
  · rw [applyOne_of_leaf (Bool.eq_false_iff.mpr unnamed)]
    rw [Path.overlap, segments_eq c.path] at apart
    exact kept_follow?_descend (editOf_leafEdit ..) _ _ h apart

/-- A change that succeeds has edited the parent of its leaf. -/
theorem follow?_applyOne (valid : Path.isValid c.path) (h : v.isContainer)
    (done : (applyOne c v).2 = none) :
    ∃ parent, parent.isContainer ∧ (editOf c (leafOf c.path) parent).2 = none ∧
      Path.follow? (Path.segments c.path) (applyOne c v).1 =
        Path.child? (leafOf c.path) (editOf c (leafOf c.path) parent).1 := by
  rw [applyOne_of_leaf (leafOf_ne_empty valid)] at done ⊢
  obtain ⟨parent, hparent, ended, found⟩ := follow?_descend _ h done
  refine ⟨parent, hparent, ended, ?_⟩
  rw [segments_eq c.path, Path.follow?_append, List.dropLast_concat, found, Option.bind_some,
    Path.follow?]
  cases Path.child? (leafOf c.path) (editOf c (leafOf c.path) parent).1 <;> rfl

/-- A write is read back. -/
theorem follow?_applyOne_of_writes (valid : Path.isValid c.path) (h : v.isContainer)
    (writes : c.operation ≠ .delete) (done : (applyOne c v).2 = none) :
    Path.follow? (Path.segments c.path) (applyOne c v).1 = some (c.newValue.getD .null) := by
  obtain ⟨parent, hparent, ended, found⟩ := follow?_applyOne valid h done
  have edit : editOf c (leafOf c.path) =
      setLeaf c.path (leafOf c.path) (c.newValue.getD .null) := by
    cases operation : c.operation <;> simp [editOf, operation] at writes ⊢
  rw [edit] at ended found
  by_cases place : HasPlace (leafOf c.path) parent
  · rw [found, setLeaf_of_hasPlace place, child?_putChild place]
  · simp [setLeaf_of_not_hasPlace hparent place] at ended

/-- Where something was deleted, nothing is read, or a null in an array. -/
theorem follow?_applyOne_of_delete (valid : Path.isValid c.path) (h : v.isContainer)
    (deletes : c.operation = .delete) (done : (applyOne c v).2 = none) :
    Kept none (Path.follow? (Path.segments c.path) (applyOne c v).1) := by
  obtain ⟨parent, hparent, ended, found⟩ := follow?_applyOne valid h done
  have edit : editOf c (leafOf c.path) = removeLeaf c.path (leafOf c.path) := by
    simp [editOf, deletes]
  rw [edit] at ended found
  by_cases place : HasPlace (leafOf c.path) parent
  · rw [found, removeLeaf_of_hasPlace place]
    exact (child?_dropChild place).imp id fun null => ⟨rfl, null⟩
  · simp [removeLeaf_of_not_hasPlace hparent place] at ended

theorem applyOne_repeated (h : v.isContainer) (done : (applyOne c v).2 = none) :
    applyOne c (applyOne c v).1 = ((applyOne c v).1, none) := by
  by_cases unnamed : (leafOf c.path).isEmpty = true
  · simp [applyOne_of_no_leaf unnamed]
  · have named := Bool.eq_false_iff.mpr unnamed
    simp only [applyOne_of_leaf named] at done ⊢
    exact descend_repeated (editOf_leafEdit ..) _ h done

theorem applyOne_settled (h : v.isContainer) (apart : Path.overlap c.path d.path = false)
    (unchanged : applyOne c v = (v, none)) :
    applyOne c (applyOne d v).1 = ((applyOne d v).1, none) := by
  by_cases unnamed : (leafOf c.path).isEmpty = true
  · simp [applyOne_of_no_leaf unnamed]
  have named := Bool.eq_false_iff.mpr unnamed
  by_cases unnamedToo : (leafOf d.path).isEmpty = true
  · rw [applyOne_of_no_leaf unnamedToo]
    exact unchanged
  have namedToo := Bool.eq_false_iff.mpr unnamedToo
  rw [Path.overlap, segments_eq c.path, segments_eq d.path] at apart
  rw [applyOne_of_leaf named] at unchanged ⊢
  rw [applyOne_of_leaf namedToo]
  exact descend_settled (editOf_leafEdit ..) (editOf_leafEdit ..) _ _ h apart unchanged

theorem applyAll_cons_of_done (done : (applyOne c v).2 = none) :
    applyAll (c :: changes) v = applyAll changes (applyOne c v).1 := by
  have split : applyOne c v = ((applyOne c v).1, none) := Prod.ext rfl done
  rw [applyAll, split]

theorem applyAll_cons_of_failed (failed : (applyOne c v).2 ≠ none) :
    applyAll (c :: changes) v = applyOne c v := by
  rw [applyAll]
  split
  · rename_i done
    simp [done] at failed
  · rfl

theorem applyAll_cons_eq_iff :
    applyAll (c :: changes) v = (w, none) ↔
      (applyOne c v).2 = none ∧ applyAll changes (applyOne c v).1 = (w, none) := by
  by_cases done : (applyOne c v).2 = none
  · simp [applyAll_cons_of_done done, done]
  · rw [applyAll_cons_of_failed done]
    constructor
    · intro equal
      simp [equal] at done
    · exact fun both => (done both.1).elim

theorem applyAll_append_eq_iff {earlier later : List AttributeChange} :
    applyAll (earlier ++ later) v = (w, none) ↔
      ∃ u, applyAll earlier v = (u, none) ∧ applyAll later u = (w, none) := by
  rw [applyAll_append]
  cases first : applyAll earlier v with
  | mk u fault => cases fault <;> simp

theorem isContainer_applyAll (changes : List AttributeChange) (h : v.isContainer) :
    (applyAll changes v).1.isContainer := by
  induction changes generalizing v with
  | nil => exact h
  | cons c changes ih =>
    by_cases done : (applyOne c v).2 = none
    · rw [applyAll_cons_of_done done]
      exact ih (isContainer_applyOne c h)
    · rw [applyAll_cons_of_failed done]
      exact isContainer_applyOne c h

/-- The frame of a run: what is read apart from all of its paths is kept. -/
theorem kept_applyAll (h : v.isContainer)
    (apart : ∀ c ∈ changes, Path.overlap c.path q = false) :
    Kept (Path.follow? (Path.segments q) v)
      (Path.follow? (Path.segments q) (applyAll changes v).1) := by
  induction changes generalizing v with
  | nil => exact .refl _
  | cons c changes ih =>
    have first := kept_applyOne c h (apart c List.mem_cons_self)
    by_cases done : (applyOne c v).2 = none
    · rw [applyAll_cons_of_done done]
      exact first.trans
        (ih (isContainer_applyOne c h) fun d member => apart d (List.mem_cons_of_mem _ member))
    · rw [applyAll_cons_of_failed done]
      exact first

theorem applyAll_settled (h : v.isContainer)
    (apart : ∀ d ∈ changes, Path.overlap c.path d.path = false)
    (unchanged : applyOne c v = (v, none)) (done : applyAll changes v = (w, none)) :
    applyOne c w = (w, none) := by
  induction changes generalizing v with
  | nil => cases done; exact unchanged
  | cons d changes ih =>
    obtain ⟨_, done⟩ := applyAll_cons_eq_iff.mp done
    have later : ∀ e ∈ changes, Path.overlap c.path e.path = false :=
      fun e member => apart e (List.mem_cons_of_mem _ member)
    have stays := applyOne_settled h (apart d List.mem_cons_self) unchanged
    exact ih (isContainer_applyOne d h) later stays done

theorem applyAll_of_unchanged (unchanged : ∀ c ∈ changes, applyOne c v = (v, none)) :
    applyAll changes v = (v, none) := by
  induction changes with
  | nil => rfl
  | cons c changes ih =>
    have first := unchanged c List.mem_cons_self
    rw [applyAll_cons_of_done (by rw [first]), first]
    exact ih fun d member => unchanged d (List.mem_cons_of_mem _ member)

/-- Paths apart from each other. -/
def Separate (changes : List AttributeChange) : Prop :=
  changes.Pairwise fun c d => Path.overlap c.path d.path = false

theorem unchanged_of_applyAll (h : v.isContainer) (separate : Separate changes)
    (done : applyAll changes v = (w, none)) : ∀ c ∈ changes, applyOne c w = (w, none) := by
  induction changes generalizing v with
  | nil => simp
  | cons c changes ih =>
    obtain ⟨apart, separate⟩ := List.pairwise_cons.mp separate
    obtain ⟨first, done⟩ := applyAll_cons_eq_iff.mp done
    have hv := isContainer_applyOne c h
    intro d member
    rcases List.mem_cons.mp member with rfl | member
    · exact applyAll_settled hv apart (applyOne_repeated h first) done
    · exact ih hv separate done d member

theorem applyAll_repeated (h : v.isContainer) (separate : Separate changes)
    (done : applyAll changes v = (w, none)) : applyAll changes w = (w, none) :=
  applyAll_of_unchanged (unchanged_of_applyAll h separate done)

theorem Touched.object {s : String} {ms : Object} (touched : Touched s (.object ms) w) :
    ∃ ms', w = .object ms' := by
  cases touched <;> simp [putChild, dropChild]

/-- A run never loses the document: its root stays an object. -/
theorem applyAll_object (changes : List AttributeChange) (document : Object) :
    ∃ result, (applyAll changes (.object document)).1 = .object result := by
  induction changes generalizing document with
  | nil => exact ⟨document, rfl⟩
  | cons c changes ih =>
    obtain ⟨s, touched⟩ := applyOne_touched c (v := .object document) rfl
    obtain ⟨next, first⟩ := touched.object
    by_cases done : (applyOne c (.object document)).2 = none
    · rw [applyAll_cons_of_done done, first]
      exact ih next
    · rw [applyAll_cons_of_failed done]
      exact ⟨next, first⟩

theorem applied_eq_ok_iff {document result : Object} :
    applied changes document = .ok result ↔
      applyAll changes (.object document) = (.object result, none) := by
  obtain ⟨root, object⟩ := applyAll_object changes document
  cases run : applyAll changes (.object document) with
  | mk v fault =>
    rw [run] at object
    subst object
    cases fault <;> simp [applied, apply, run, Value.toObject]

/-- A run that succeeded finds nothing to change in its result. -/
theorem applied_applied {document result : Object} (separate : Separate changes)
    (done : applied changes document = .ok result) : applied changes result = .ok result := by
  rw [applied_eq_ok_iff] at done ⊢
  exact applyAll_repeated rfl separate done

/-- A change is read back from the result of its run, unless a later change overlaps it. -/
theorem read?_applied {earlier later : List AttributeChange} {document result : Object}
    (done : applied (earlier ++ c :: later) document = .ok result) (valid : Path.isValid c.path)
    (last : ∀ d ∈ later, Path.overlap d.path c.path = false) :
    (c.operation ≠ .delete → Path.read? result c.path = some (c.newValue.getD .null)) ∧
      (c.operation = .delete → Kept none (Path.read? result c.path)) := by
  obtain ⟨before, run, rest⟩ := applyAll_append_eq_iff.mp (applied_eq_ok_iff.mp done)
  obtain ⟨first, rest⟩ := applyAll_cons_eq_iff.mp rest
  have hbefore : before.isContainer := by
    have := isContainer_applyAll earlier (v := .object document) rfl
    rwa [run] at this
  have kept := kept_applyAll (isContainer_applyOne c hbefore) last
  rw [rest] at kept
  constructor
  · intro writes
    rw [follow?_applyOne_of_writes valid hbefore writes first] at kept
    exact kept.of_some
  · intro deletes
    exact (follow?_applyOne_of_delete valid hbefore deletes first).trans kept

end DocumentMigration.Change
