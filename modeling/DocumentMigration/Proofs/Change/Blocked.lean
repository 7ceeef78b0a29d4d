import DocumentMigration.Proofs.Change.Commute

/-! Where a change cannot be applied: a segment of its path meets an array that it does not index.
Before that no container was made and no array has grown, since what a walk makes has no arrays in
it; so a change that fails leaves the document as it was. -/
namespace DocumentMigration.Change

open Json

/-- An array stands at some of the segments, of which and of the next segment something holds. -/
def Meets (p : String → List Value → Prop) (segments : List String) (v : Value) : Prop :=
  ∃ front s rest items, segments = front ++ s :: rest ∧
    Path.follow? front v = some (.array items) ∧ p s items

/-- An array stands at some of the segments, and the next one does not index it. -/
def Blocked (segments : List String) (segment : String) (v : Value) : Prop :=
  ∃ front rest items, segments = front ++ segment :: rest ∧
    Path.follow? front v = some (.array items) ∧ Path.index? segment = none

section Meets

variable {p : String → List Value → Prop} {s segment : String} {segments rest : List String}
  {v : Value}

theorem not_meets_nil : ¬ Meets p [] v := by
  rintro ⟨front, s, rest, items, split, -⟩
  cases front <;> cases split

/-- The array is met where a walk starts, or further down. -/
theorem meets_cons_iff : Meets p (s :: rest) v ↔
    (∃ items, v = .array items ∧ p s items) ∨
      ∃ child, Path.child? s v = some child ∧ Meets p rest child := by
  constructor
  · rintro ⟨front, t, later, items, split, found, holds⟩
    cases front with
    | nil =>
      cases split
      cases found
      exact .inl ⟨items, rfl, holds⟩
    | cons r front =>
      cases split
      obtain ⟨child, first, below⟩ := Option.bind_eq_some_iff.mp found
      exact .inr ⟨child, first, front, t, later, items, rfl, below, holds⟩
  · rintro (⟨items, rfl, holds⟩ | ⟨child, first, front, t, later, items, rfl, below, holds⟩)
    · exact ⟨[], s, rest, items, rfl, rfl, holds⟩
    · exact ⟨s :: front, t, later, items, rfl, Option.bind_eq_some_iff.mpr ⟨child, first, below⟩,
        holds⟩

theorem blocked_iff_meets :
    Blocked segments segment v ↔
      Meets (fun s _ => s = segment ∧ Path.index? s = none) segments v := by
  constructor
  · rintro ⟨front, rest, items, split, found, index⟩
    exact ⟨front, segment, rest, items, split, found, rfl, index⟩
  · rintro ⟨front, _, rest, items, split, found, rfl, index⟩
    exact ⟨front, rest, items, split, found, index⟩

end Meets

section Container

variable {s : String} {front : List String} {v u x : Value}

theorem hasPlace_of_child? (found : Path.child? s v = some x) : HasPlace s v := by
  cases v with
  | array items =>
    obtain ⟨i, index, -⟩ := Option.bind_eq_some_iff.mp found
    exact Option.isSome_iff_exists.mpr ⟨i, index⟩
  | object members => trivial
  | _ => cases found

theorem isContainer_of_hasPlace (place : HasPlace s v) : v.isContainer := by
  cases v with
  | array items => rfl
  | object members => rfl
  | _ => exact place.elim

/-- There are containers all the way to a container. -/
theorem isContainer_of_follow? (found : Path.follow? front v = some u) (hu : u.isContainer) :
    v.isContainer := by
  cases front with
  | nil =>
    cases found
    exact hu
  | cons s front =>
    obtain ⟨child, first, -⟩ := Option.bind_eq_some_iff.mp found
    exact isContainer_of_hasPlace (hasPlace_of_child? first)

end Container

section Blocked

variable {s segment leaf path : String} {segments rest : List String} {v x : Value}
  {made : ChildEdit} {edit : Value → Edited}

theorem not_blocked_nil : ¬ Blocked [] segment v :=
  fun blocked => not_meets_nil (blocked_iff_meets.mp blocked)

/-- The first segment has no place in a container, or the block is further down. -/
theorem blocked_cons_iff (h : v.isContainer) :
    Blocked (s :: rest) segment v ↔
      (segment = s ∧ ¬ HasPlace s v) ∨
        ∃ child, Path.child? s v = some child ∧ Blocked rest segment child := by
  simp only [blocked_iff_meets, meets_cons_iff]
  refine or_congr_left ?_
  cases v with
  | array items =>
    constructor
    · rintro ⟨-, -, rfl, index⟩
      exact ⟨rfl, by simp [HasPlace, index]⟩
    · rintro ⟨rfl, unplaced⟩
      exact ⟨items, rfl, rfl, Option.not_isSome_iff_eq_none.mp unplaced⟩
  | object members => simp [HasPlace]
  | _ => contradiction

theorem Blocked.isContainer (blocked : Blocked segments segment v) : v.isContainer := by
  obtain ⟨front, rest, items, -, found, -⟩ := blocked
  exact isContainer_of_follow? found rfl

/-- What a walk makes on its way blocks nothing. -/
theorem Blocked.of_below (blocked : Blocked segments segment (below s v)) :
    ∃ child, Path.child? s v = some child ∧ Blocked segments segment child := by
  obtain ⟨front, rest, items, split, found, index⟩ := blocked
  cases child : Path.child? s v with
  | none =>
    -- An empty object stands there, in which nothing is found.
    rw [below, child] at found
    cases front <;> cases found
  | some x =>
    refine ⟨x, rfl, front, rest, items, split, ?_, index⟩
    rw [below, child, Option.getD_some] at found
    cases front with
    | nil => cases x <;> cases found; rfl
    | cons t front => rwa [follow?_container (List.cons_ne_nil t front)] at found

/-- A child that is written where it was. -/
theorem putChild_eq_self (canonical : v.Canonical) (found : Path.child? s v = some x) :
    putChild s x v = v := by
  cases v with
  | array items => exact (putChild_array_eq_self_iff (hasPlace_of_child? found)).mpr found
  | object members => rw [putChild, canonical.1.insert_eq_self found]
  | _ => cases found

/-- A walk is stopped where it is blocked, and leaves the value as it was. -/
theorem descend_of_blocked (leafEdit : EditsChild leaf made (.arrayIndex path leaf) edit)
    (segments : List String) (h : v.isContainer) (canonical : v.Canonical)
    (blocked : Blocked (segments ++ [leaf]) segment v) :
    descend path edit segments v = (v, some (.arrayIndex path segment)) := by
  induction segments generalizing v with
  | nil =>
    rcases (blocked_cons_iff h).mp blocked with ⟨rfl, unplaced⟩ | ⟨child, -, deeper⟩
    · exact leafEdit.unplaced h unplaced
    · exact (not_blocked_nil deeper).elim
  | cons s rest ih =>
    rcases (blocked_cons_iff h).mp blocked with ⟨rfl, unplaced⟩ | ⟨child, found, deeper⟩
    · exact descend_cons_of_not_hasPlace h unplaced
    · rw [descend_cons_of_hasPlace h (hasPlace_of_child? found),
        below_of_child? found deeper.isContainer,
        ih deeper.isContainer (canonical.child? found) deeper, putChild_eq_self canonical found]

/-- A walk that nothing blocks comes to its end. -/
theorem descend_of_free (leafEdit : EditsChild leaf made (.arrayIndex path leaf) edit)
    (clean : ∀ x, (made x).2 = none) (segments : List String) (h : v.isContainer)
    (free : ∀ segment, ¬ Blocked (segments ++ [leaf]) segment v) :
    (descend path edit segments v).2 = none := by
  induction segments generalizing v with
  | nil =>
    have place : HasPlace leaf v := Classical.not_not.mp fun unplaced =>
      free leaf ((blocked_cons_iff h).mpr (.inl ⟨rfl, unplaced⟩))
    rw [descend, leafEdit.placed h place]
    exact clean _
  | cons s rest ih =>
    have place : HasPlace s v := Classical.not_not.mp fun unplaced =>
      free s ((blocked_cons_iff h).mpr (.inl ⟨rfl, unplaced⟩))
    rw [descend_cons_of_hasPlace h place]
    refine ih (isContainer_below s v) fun segment deeper => ?_
    exact free segment ((blocked_cons_iff h).mpr (.inr deeper.of_below))

end Blocked

section Runs

variable {c : AttributeChange} {changes : List AttributeChange} {segment : String} {v : Value}
  {document result : Object} {fault : PathError}

theorem applyOne_of_blocked (named : (leafOf c.path).isEmpty = false) (h : v.isContainer)
    (canonical : v.Canonical) (blocked : Blocked (Path.segments c.path) segment v) :
    applyOne c v = (v, some (.arrayIndex c.path segment)) := by
  rw [segments_eq] at blocked
  rw [applyOne_of_leaf named]
  exact descend_of_blocked (editsChild_editOf c _) _ h canonical blocked

theorem applyOne_of_free (named : (leafOf c.path).isEmpty = false) (h : v.isContainer)
    (free : ∀ segment, ¬ Blocked (Path.segments c.path) segment v) : (applyOne c v).2 = none := by
  rw [segments_eq] at free
  rw [applyOne_of_leaf named]
  exact descend_of_free (editsChild_editOf c _) (fun _ => rfl) _ h free

/-- A change that fails has changed nothing. -/
theorem applyOne_of_failed (h : v.isContainer) (canonical : v.Canonical)
    (failed : (applyOne c v).2 = some fault) : applyOne c v = (v, some fault) := by
  by_cases unnamed : (leafOf c.path).isEmpty = true
  · rw [applyOne_of_no_leaf unnamed] at failed
    cases failed
  have named := Bool.eq_false_iff.mpr unnamed
  by_cases blocked : ∃ segment, Blocked (Path.segments c.path) segment v
  · obtain ⟨segment, blocked⟩ := blocked
    rw [applyOne_of_blocked named h canonical blocked] at failed ⊢
    rw [← failed]
  · rw [applyOne_of_free named h (not_exists.mp blocked)] at failed
    cases failed

theorem applyAll_singleton (c : AttributeChange) (v : Value) : applyAll [c] v = applyOne c v := by
  by_cases done : (applyOne c v).2 = none
  · rw [applyAll_cons_of_done done]
    exact Prod.ext rfl done.symm
  · exact applyAll_cons_of_failed done

/-- A run that fails stops at its first change that fails, with the value that the changes before
it have made. -/
theorem applyAll_eq_failed_iff {w : Value} (writes : ∀ c ∈ changes, WritesCanonical c)
    (h : v.isContainer) (canonical : v.Canonical) :
    applyAll changes v = (w, some fault) ↔ ∃ earlier c later, changes = earlier ++ c :: later ∧
      applyAll earlier v = (w, none) ∧ applyOne c w = (w, some fault) := by
  constructor
  · intro ended
    induction changes generalizing v with
    | nil => cases ended
    | cons c changes ih =>
      obtain ⟨first, writes⟩ := List.forall_mem_cons.mp writes
      by_cases done : (applyOne c v).2 = none
      · rw [applyAll_cons_of_done done] at ended
        obtain ⟨earlier, d, later, rfl, run, failed⟩ :=
          ih writes (isContainer_applyOne c h) (canonical_applyOne first h canonical) ended
        exact ⟨c :: earlier, d, later, rfl, applyAll_cons_eq_iff.mpr ⟨done, run⟩, failed⟩
      · rw [applyAll_cons_of_failed done] at ended
        have unchanged := applyOne_of_failed h canonical (congrArg Prod.snd ended)
        cases unchanged.symm.trans ended
        exact ⟨[], c, changes, rfl, rfl, ended⟩
  · rintro ⟨earlier, c, later, rfl, run, failed⟩
    have stops : (applyOne c w).2 ≠ none := by simp [failed]
    rw [applyAll_append, run]
    exact (applyAll_cons_of_failed stops).trans failed

/-- A change to a named place fails just where a segment of its path meets an array that it does
not index. The fault names the path and the segment, and the document is as before. A list of
changes stops at the first one that fails, with what the changes before it have made. -/
theorem apply_fails_where_blocked :
    (∀ {c : AttributeChange} {document : Object}, leafOf c.path ≠ "" →
      (Value.object document).Canonical →
      ((apply [c] document).2 ≠ none ↔
        ∃ segment, Blocked (Path.segments c.path) segment (.object document)) ∧
      ∀ segment, Blocked (Path.segments c.path) segment (.object document) →
        apply [c] document = (document, some (.arrayIndex c.path segment))) ∧
    (∀ {changes : List AttributeChange} {document result : Object} {fault : PathError},
      (∀ c ∈ changes, WritesCanonical c) → (Value.object document).Canonical →
      (apply changes document = (result, some fault) ↔
        ∃ earlier c later, changes = earlier ++ c :: later ∧
          apply earlier document = (result, none) ∧ apply [c] result = (result, some fault))) := by
  constructor
  · intro c document named canonical
    have named : (leafOf c.path).isEmpty = false := by simpa using named
    have stopped (segment : String)
        (blocked : Blocked (Path.segments c.path) segment (.object document)) :
        apply [c] document = (document, some (.arrayIndex c.path segment)) := by
      rw [apply_eq_iff, applyAll_singleton]
      exact applyOne_of_blocked named rfl canonical blocked
    refine ⟨⟨fun failed => ?_, fun ⟨segment, blocked⟩ => ?_⟩, stopped⟩
    · by_contra free
      have done := applyOne_of_free named (v := .object document) rfl (not_exists.mp free)
      have ran : applyAll [c] (.object document) = _ :=
        apply_eq_iff.mp (Prod.eta (apply [c] document)).symm
      rw [applyAll_singleton] at ran
      rw [ran] at done
      exact failed done
    · rw [stopped segment blocked]
      exact Option.some_ne_none _
  · intro changes document result fault writes canonical
    simp only [apply_eq_iff, applyAll_singleton]
    exact applyAll_eq_failed_iff writes rfl canonical

end Runs

end DocumentMigration.Change

namespace DocumentMigration.Sample

open Json

def agenda : Object :=
  [("slots", .array [.object [("topic", .string "a")]]), ("title", .string "b")]

/-- Makes an object of the title, and goes on to a slot that has no such name. -/
def agendaChanges : List AttributeChange :=
  [{ path := "title.text", operation := .update, newValue := some (.string "c") },
    { path := "slots.last.topic", operation := .delete },
    { path := "slots.1", operation := .create }]

theorem canonical_agenda : (Value.object agenda).Canonical := by
  refine ⟨?_, ⟨⟨List.pairwise_singleton _ _, trivial, trivial⟩, trivial⟩, trivial, trivial⟩
  show ["slots", "title"].Pairwise (· < ·)
  decide +kernel

theorem apply_fails_where_blocked_of_agenda :
    Change.apply [agendaChanges[1]] agenda =
        (agenda, some (.arrayIndex "slots.last.topic" "last")) ∧
      ∃ earlier c later, agendaChanges = earlier ++ c :: later ∧
        Change.apply earlier agenda =
          ([agenda[0], ("title", .object [("text", .string "c")])], none) ∧
        Change.apply [c] [agenda[0], ("title", .object [("text", .string "c")])] =
          ([agenda[0], ("title", .object [("text", .string "c")])],
            some (.arrayIndex "slots.last.topic" "last")) := by
  have named : Change.leafOf "slots.last.topic" ≠ "" := by decide
  have segments : Path.segments "slots.last.topic" = ["slots", "last", "topic"] := by
    decide +kernel
  have blocked : Change.Blocked (Path.segments "slots.last.topic") "last" (.object agenda) := by
    rw [segments]
    exact ⟨["slots"], ["topic"], [.object [("topic", .string "a")]], rfl, rfl, rfl⟩
  have writes : ∀ c ∈ agendaChanges, Change.WritesCanonical c := by
    simp [agendaChanges, Change.WritesCanonical, Value.Canonical]
  refine ⟨(Change.apply_fails_where_blocked.1 (c := agendaChanges[1]) named canonical_agenda).2
    "last" blocked, ?_⟩
  exact (Change.apply_fails_where_blocked.2 writes canonical_agenda).mp rfl

end DocumentMigration.Sample
