import DocumentMigration.Proofs.Change.Growth
import Mathlib.Computability.StateTransition

/-! Runs of changes step by step. The root is edited where a walk stands: a step goes down to one
child, which is there afterwards, or edits the parent of a leaf. At every moment the root is an
object, so that there is a document to put back, unless the run breaks off. -/
namespace DocumentMigration.Change

open Json StateTransition

/-- How far a run of changes has come. -/
inductive Moment where
  /-- Before the first of the changes that are left. -/
  | ready (root : Value) (left : List AttributeChange)
  /-- In a change, at the value that `front` leads to, with `segments` to go to the parent. -/
  | walking (root : Value) (front segments : List String) (change : AttributeChange)
      (left : List AttributeChange)
  /-- After the last change or the first one that failed. -/
  | ended (root : Value) (fault : Option PathError)
  /-- Room for an element could not be made. -/
  | broken

namespace Moment

def root? : Moment → Option Value
  | ready root _ | walking root .. | ended root _ => some root
  | broken => none

/-- Puts what an edit leaves behind at the end of `front`. The run goes on unless the edit fails. -/
def edited (front : List String) (root : Value) (next : Value → Moment) : Edited → Moment
  | (v, none) => next (putAt front v root)
  | (v, some fault) => ended (putAt front v root) (some fault)

/-- Goes on to the next change, down to a child, or past the edit of a leaf. -/
def step (capacity : Capacity) : Moment → Option Moment
  | ready root [] => some (ended root none)
  | ready root (c :: left) =>
    some (if (leafOf c.path).isEmpty then ready root left
      else walking root [] (Path.segments c.path).dropLast c left)
  | walking root front [] c left =>
    let parent := (Path.follow? front root).getD .null
    some (if findsRoom capacity (leafNeeded c) parent then
        edited front root (ready · left) (editOf c (leafOf c.path) parent)
      else broken)
  | walking root front (s :: rest) c left =>
    let current := (Path.follow? front root).getD .null
    some (if findsRoom capacity [s] current then
        edited front root (walking · (front ++ [s]) rest c left)
          (descend c.path (fun child => (child, none)) [s] current)
      else broken)
  | ended .. | broken => none

end Moment

open Moment

variable {capacity : Capacity} {c : AttributeChange} {changes left : List AttributeChange}
  {front segments rest : List String} {s : String} {root u v x y : Value}
  {document result : Object} {fault : Option PathError} {moment moment' : Moment}

section Walk

theorem edited_concat (found : Path.follow? front root = some u) (next : Value → Moment)
    (fault : Option PathError) :
    edited (front ++ [s]) (putAt front (putChild s y u) root) next (x, fault) =
      edited front root next (putChild s x u, fault) := by
  cases fault <;> rw [edited, edited, putAt_concat found]

theorem edited_of_done {e : Edited} {next : Value → Moment} (done : e.2 = none) :
    edited front root next e = next (putAt front e.1 root) := by
  obtain ⟨v, fault⟩ := e
  cases done
  rfl

theorem edited_of_failed {e : Edited} {next : Value → Moment} (failed : e.2 ≠ none) :
    edited front root next e = ended (putAt front e.1 root) e.2 := by
  obtain ⟨v, fault⟩ := e
  cases fault with
  | none => contradiction
  | some fault => rfl

/-- The steps of a walk make together what the walk makes at once. -/
theorem reaches_walk (found : Path.follow? front root = some u) (hu : u.isContainer) :
    Reaches (step capacity) (walking root front segments c left)
      (if findsRoom capacity (segments ++ leafNeeded c) u then
        edited front root (ready · left) (descend c.path (editOf c (leafOf c.path)) segments u)
      else broken) := by
  induction segments generalizing front root u with
  | nil =>
    refine Relation.ReflTransGen.single ?_
    rw [step, found]
    rfl
  | cons s rest ih =>
    rw [List.cons_append, findsRoom_cons]
    cases room : findsRoom capacity [s] u with
    | false =>
      refine Relation.ReflTransGen.single ?_
      rw [step, found, Option.getD_some, room]
      rfl
    | true =>
      by_cases place : HasPlace s u
      · have first : step capacity (walking root front (s :: rest) c left) =
            some (walking (putAt front (putChild s (below s u) u) root) (front ++ [s]) rest c
              left) := by
          rw [step, found, Option.getD_some, room, descend_cons_of_hasPlace hu place]
          rfl
        have later := ih (follow?_putAt_putChild found place [] _) (isContainer_below s u)
        rw [edited_concat found, ← descend_cons_of_hasPlace hu place] at later
        exact Relation.ReflTransGen.head first later
      · -- No child is found where there is no place for one, so that no array is met further down.
        have absent : Path.child? s u = none :=
          Option.eq_none_iff_forall_ne_some.mpr fun child found => place (hasPlace_of_child? found)
        refine Relation.ReflTransGen.single ?_
        rw [step, found, Option.getD_some, room, below, findsRoom_container, absent,
          descend_cons_of_not_hasPlace hu place, descend_cons_of_not_hasPlace hu place]
        simp [findsRoom_of_scalar (v := .null) rfl, edited]

end Walk

section Outcome

/-- Where a run stops that leaves this behind. -/
def outcome : Option Edited → Moment
  | some (root, fault) => ended root fault
  | none => broken

theorem step_outcome (result : Option Edited) : step capacity (outcome result) = none := by
  cases result <;> rfl

/-- One change, made step by step, goes where it goes when it is made at once. -/
theorem reaches_applyOne (h : v.isContainer) :
    Reaches (step capacity) (ready v (c :: left))
      (if findsRoom capacity (needed c) v then edited [] v (ready · left) (applyOne c v)
        else broken) := by
  by_cases unnamed : (leafOf c.path).isEmpty = true
  · rw [needed_of_no_leaf unnamed, applyOne_of_no_leaf unnamed]
    refine Relation.ReflTransGen.single ?_
    rw [step, if_pos unnamed]
    rfl
  · have named := Bool.eq_false_iff.mpr unnamed
    have first : step capacity (ready v (c :: left)) =
        some (walking v [] (Path.segments c.path).dropLast c left) := by
      rw [step, if_neg unnamed]
    rw [needed_eq_append named, applyOne_of_leaf named]
    exact Relation.ReflTransGen.head first (reaches_walk rfl h)

theorem reaches_outcome (h : v.isContainer) :
    Reaches (step capacity) (ready v changes) (outcome (executeAll capacity changes v)) := by
  induction changes generalizing v with
  | nil => exact Relation.ReflTransGen.single rfl
  | cons c left ih =>
    have walk : Reaches (step capacity) (ready v (c :: left)) _ := reaches_applyOne h
    cases room : findsRoom capacity (needed c) v with
    | false =>
      rw [executeAll_cons_of_no_room room]
      rwa [room] at walk
    | true =>
      rw [room, if_pos rfl] at walk
      by_cases done : (applyOne c v).2 = none
      · rw [edited_of_done done] at walk
        rw [executeAll_cons_of_done room done]
        exact walk.trans (ih (isContainer_applyOne c h))
      · rw [edited_of_failed done] at walk
        rwa [executeAll_cons_of_failed room done]

/-- A run comes to an end in one way only. -/
theorem reaches_final_iff (h : v.isContainer) (final : step capacity moment = none) :
    Reaches (step capacity) (ready v changes) moment ↔
      moment = outcome (executeAll capacity changes v) := by
  constructor
  · intro run
    exact Part.mem_unique (mem_eval.mpr ⟨run, final⟩)
      (mem_eval.mpr ⟨reaches_outcome h, step_outcome _⟩)
  · rintro rfl
    exact reaches_outcome h

end Outcome

section Sound

/-- The root is an object, a walk stands at a container in it, and no path was found invalid. -/
def Moment.Sound : Moment → Prop
  | ready root _ => ∃ members, root = .object members
  | walking root front _ _ _ => (∃ members, root = .object members) ∧
      ∃ v, Path.follow? front root = some v ∧ v.isContainer
  | ended root fault => (∃ members, root = .object members) ∧
      ∀ path, fault ≠ some (.invalid path)
  | broken => True

theorem Moment.Sound.object (sound : moment.Sound) (here : moment.root? = some root) :
    ∃ members, root = .object members := by
  cases moment with
  | ready => cases here; exact sound
  | walking => cases here; exact sound.1
  | ended => cases here; exact sound.1
  | broken => cases here

/-- An edit of one child at the end of some segments leaves an object an object. -/
theorem object_putAt {members : Object} (found : Path.follow? front (.object members) = some u)
    (touched : Touched s u v) :
    ∃ members', putAt front v (.object members) = .object members' := by
  cases front with
  | nil =>
    cases found
    exact touched.object
  | cons t front => exact ⟨_, rfl⟩

theorem sound_edited {members : Object} {next : Value → Moment} {e : Edited}
    (found : Path.follow? front (.object members) = some u) (touched : Touched s u e.1)
    (valid : ∀ path, e.2 ≠ some (.invalid path))
    (goesOn : e.2 = none → (∃ members', putAt front e.1 (.object members) = .object members') →
      (next (putAt front e.1 (.object members))).Sound) :
    (edited front (.object members) next e).Sound := by
  have object := object_putAt found touched
  by_cases done : e.2 = none
  · rw [edited_of_done done]
    exact goesOn done object
  · rw [edited_of_failed done]
    exact ⟨object, valid⟩

/-- The edit of a leaf fails for an index only. -/
theorem editOf_valid (hu : u.isContainer) (leaf path : String) :
    (editOf c leaf u).2 ≠ some (.invalid path) := by
  by_cases place : HasPlace leaf u
  · simp [(editsChild_editOf c leaf).placed hu place]
  · simp [(editsChild_editOf c leaf).unplaced hu place]

theorem sound_edited_leaf {members : Object} (leaf : String)
    (found : Path.follow? front (.object members) = some u) (hu : u.isContainer) :
    (edited front (.object members) (ready · left) (editOf c leaf u)).Sound :=
  sound_edited found ((editOf_leafEdit c leaf).touched hu) (editOf_valid hu leaf)
    fun _ object => object

/-- The child that a walk goes down to is a container, whatever was there. -/
theorem sound_edited_child {members : Object} (path : String)
    (found : Path.follow? front (.object members) = some u) (hu : u.isContainer) :
    (edited front (.object members) (walking · (front ++ [s]) rest c left)
      (descend path (fun child => (child, none)) [s] u)).Sound := by
  by_cases place : HasPlace s u
  · rw [descend_cons_of_hasPlace hu place]
    refine sound_edited found (.put (below s u)) (fun _ => by simp [descend]) fun _ object => ?_
    have there := follow?_putAt_putChild found place [] (below s u)
    exact ⟨object, below s u, there, isContainer_below s u⟩
  · rw [descend_cons_of_not_hasPlace hu place]
    refine sound_edited found (s := s) .left (fun _ => by simp) fun done => ?_
    simp at done

theorem Moment.Sound.step (sound : moment.Sound) (next : moment.step capacity = some moment') :
    moment'.Sound := by
  cases moment with
  | ready root left =>
    obtain ⟨members, rfl⟩ := sound
    cases left with
    | nil =>
      cases next
      exact ⟨⟨members, rfl⟩, fun path => by simp⟩
    | cons c left =>
      cases next
      split
      · exact ⟨members, rfl⟩
      · exact ⟨⟨members, rfl⟩, .object members, rfl, rfl⟩
  | walking root front segments c left =>
    obtain ⟨⟨members, rfl⟩, u, found, hu⟩ := sound
    cases segments with
    | nil =>
      rw [Moment.step, found] at next
      cases next
      split
      · exact sound_edited_leaf _ found hu
      · trivial
    | cons s rest =>
      rw [Moment.step, found] at next
      cases next
      split
      · exact sound_edited_child _ found hu
      · trivial
  | ended root fault => cases next
  | broken => cases next

theorem Moment.Sound.reaches (sound : moment.Sound)
    (run : Reaches (Moment.step capacity) moment moment') : moment'.Sound := by
  induction run with
  | refl => exact sound
  | tail _ next ih => exact ih.step next

end Sound

section Run

/-- A run of changes to a document comes by a moment. -/
def Passes (capacity : Capacity) (changes : List AttributeChange) (document : Object)
    (moment : Moment) : Prop :=
  Reaches (step capacity) (ready (.object document) changes) moment

theorem Passes.sound (passes : Passes capacity changes document moment) : moment.Sound := by
  have start : (ready (.object document) changes).Sound := ⟨document, rfl⟩
  exact start.reaches passes

theorem passes_ended_iff : Passes capacity changes document (ended root fault) ↔
    ∃ result, root = .object result ∧ execute capacity changes document = some (result, fault) := by
  have final : Passes capacity changes document (ended root fault) ↔
      executeAll capacity changes (.object document) = some (root, fault) := by
    rw [Passes, reaches_final_iff rfl rfl]
    cases executeAll capacity changes (.object document) <;> simp [outcome, Prod.ext_iff, eq_comm]
  constructor
  · intro passes
    obtain ⟨result, rfl⟩ := passes.sound.object rfl
    exact ⟨result, rfl, execute_eq_some_iff.mpr (final.mp passes)⟩
  · rintro ⟨result, rfl, ran⟩
    exact final.mpr (execute_eq_some_iff.mp ran)

theorem passes_broken_iff :
    Passes capacity changes document broken ↔ execute capacity changes document = none := by
  rw [Passes, reaches_final_iff rfl rfl, execute, Option.map_eq_none_iff]
  cases executeAll capacity changes (.object document) <;> simp [outcome]

/-- An edit is asked about containers only. -/
theorem descend_congr {edit edit' : Value → Edited} (path : String) (segments : List String)
    (same : ∀ u, u.isContainer → edit u = edit' u) (hv : v.isContainer) :
    descend path edit segments v = descend path edit' segments v := by
  induction segments generalizing v with
  | nil => exact same v hv
  | cons s rest ih =>
    by_cases place : HasPlace s v
    · rw [descend_cons_of_hasPlace hv place, descend_cons_of_hasPlace hv place,
        ih (isContainer_below s v)]
    · rw [descend_cons_of_not_hasPlace hv place, descend_cons_of_not_hasPlace hv place]

/-- How a run of changes goes about the document it is given. -/
structure KeepsDocument (capacity : Capacity) (changes : List AttributeChange) (document : Object) :
    Prop where
  /-- The root is an object all the time. -/
  object : ∀ moment root, Passes capacity changes document moment → moment.root? = some root →
    ∃ members, root = .object members
  /-- The parent of a leaf is an object or an array when the leaf is edited. -/
  parent : ∀ root front change left,
    Passes capacity changes document (walking root front [] change left) →
      ∃ parent, Path.follow? front root = some parent ∧ parent.isContainer
  /-- What the edit of a leaf would make of a scalar plays no part. -/
  scalars : ∀ (path : String) (segments : List String) (edit edit' : Value → Edited),
    (∀ v, v.isContainer → edit v = edit' v) →
      descend path edit segments (.object document) =
        descend path edit' segments (.object document)
  valid : ∀ root path, ¬ Passes capacity changes document (ended root (some (.invalid path)))
  /-- The root at the end is the document that is put back. -/
  ended_iff : ∀ root fault, Passes capacity changes document (ended root fault) ↔
    ∃ result, root = .object result ∧ execute capacity changes document = some (result, fault)
  ends : (∃ root fault, Passes capacity changes document (ended root fault)) ∨
    Passes capacity changes document broken
  broken_iff : Passes capacity changes document broken ↔ ∃ earlier c later w,
    changes = earlier ++ c :: later ∧ apply earlier document = (w, none) ∧
      Overflows capacity (needed c) (.object w)

/-- Whatever the changes are, the document that they made so far is put back at the end, unless an
index that no array is long enough for breaks the run off. -/
theorem run_keeps_document (capacity : Capacity) (changes : List AttributeChange)
    (document : Object) :
    KeepsDocument capacity changes document where
  object _ _ passes here := passes.sound.object here
  parent _ _ _ _ passes := passes.sound.2
  scalars path segments _ _ same := descend_congr path segments same rfl
  valid _ path passes := passes.sound.2 path rfl
  ended_iff _ _ := passes_ended_iff
  ends := by
    cases ran : execute capacity changes document with
    | none => exact .inr (passes_broken_iff.mpr ran)
    | some result =>
      obtain ⟨members, fault⟩ := result
      exact .inl ⟨.object members, fault, passes_ended_iff.mpr ⟨members, rfl, ran⟩⟩
  broken_iff := passes_broken_iff.trans execute_eq_none_iff

end Run

end DocumentMigration.Change

namespace DocumentMigration.Sample

open Json Change

/-- A room with one guest in it. -/
def lounge : Object := [("room", .string "A1"), ("seats", .array [.string "Ada"])]

/-- Seats a second guest, and asks for a seat that has no number. -/
def seating : List AttributeChange :=
  [seat "1", { path := "seats.last.name", operation := .delete }]

theorem run_keeps_document_of_lounge :
    (∃ parent, Path.follow? ["seats"] (.object lounge) = some parent ∧ parent.isContainer) ∧
      Passes capacity seating lounge
        (.ended (.object [lounge[0], ("seats", .array [.string "Ada", .string "Grace"])])
          (some (.arrayIndex "seats.last.name" "last"))) := by
  have kept := run_keeps_document capacity seating lounge
  have atSeats : Passes capacity seating lounge
      (.walking (.object lounge) ["seats"] [] seating[0] [seating[1]]) :=
    .tail (.single rfl) rfl
  exact ⟨kept.parent _ _ _ _ atSeats, (kept.ended_iff _ _).mpr ⟨_, rfl, rfl⟩⟩

/-- Deletes below the last word, which no array reaches, and then the seats. -/
def clearing : List AttributeChange :=
  [{ path := "seats.18446744073709551615.name", operation := .delete },
    { path := "seats", operation := .delete }]

/-- The room is taken along with its seats, and not put back, whatever the capacity. -/
theorem run_loses_lounge :
    ¬ ∃ capacity : Capacity, ∀ (changes : List AttributeChange) (document : Object),
      ∃ result fault, Passes capacity changes document (.ended (.object result) fault) := by
  rintro ⟨capacity, claimed⟩
  have split : needed clearing[0] = ["seats"] ++ ["18446744073709551615"] := by decide +kernel
  have index : Path.index? "18446744073709551615" = some 18446744073709551615 := by decide +kernel
  have small := capacity.small
  have stopped : execute capacity clearing lounge = none :=
    execute_eq_none_iff.mpr ⟨[], _, [clearing[1]], lounge, rfl, rfl, ["seats"], _, [], _, split,
      rfl, _, index, by decide, by omega⟩
  obtain ⟨result, fault, passes⟩ := claimed clearing lounge
  obtain ⟨_, _, ran⟩ := passes_ended_iff.mp passes
  rw [stopped] at ran
  cases ran

end DocumentMigration.Sample
