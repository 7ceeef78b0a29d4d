import DocumentMigration.Change.Execute
import DocumentMigration.Proofs.Change.Walk

/-! Arrays grow just as far as an index asks. A run with arrays of some capacity makes the same of
them, or breaks off, which it does where an array would need to be longer. -/
namespace DocumentMigration

open Json

namespace Change

/-- What becomes of an array that is written at an index, or below it: it has an element there, the
others are as they were, and what is new besides is null. -/
structure Grown (items : List Value) (i : Nat) (items' : List Value) : Prop where
  length : items'.length = max items.length (i + 1)
  kept : ∀ j < items.length, j ≠ i → items'[j]? = items[j]?
  filled : ∀ j < items'.length, items.length ≤ j → j ≠ i → items'[j]? = some .null

theorem grown_set_grow (items : List Value) (i : Nat) (x : Value) :
    Grown items i ((grow items i).set i x) where
  length := by rw [List.length_set, length_grow]
  kept j inside other := by
    rw [List.getElem?_set_ne (Ne.symm other), getElem?_grow_of_lt inside]
  filled j inside new other := by
    rw [List.length_set] at inside
    rw [List.getElem?_set_ne (Ne.symm other)]
    rcases kept_grow items i j with same | ⟨-, null⟩
    · rw [List.getElem?_eq_none new, List.getElem?_eq_none_iff] at same
      omega
    · exact null

/-- A write needs its leaf to be there, a delete does not. -/
def leafNeeded (c : AttributeChange) : List String :=
  if c.operation = .delete then [] else [leafOf c.path]

section Walk

variable {capacity : Capacity} {c : AttributeChange} {front rest segments : List String}
  {s : String} {u v : Value}

theorem needed_of_leaf (named : (leafOf c.path).isEmpty = false) :
    needed c = if c.operation = .delete then (Path.segments c.path).dropLast
      else Path.segments c.path := by
  cases h : c.operation <;> simp [needed, leafOf, h] at named ⊢ <;> simp [named]

theorem needed_eq_append (named : (leafOf c.path).isEmpty = false) :
    needed c = (Path.segments c.path).dropLast ++ leafNeeded c := by
  rw [needed_of_leaf named, leafNeeded]
  split
  · rw [List.append_nil]
  · rw [← segments_eq]

theorem needed_of_no_leaf (unnamed : (leafOf c.path).isEmpty = true) : needed c = [] := by
  simp [needed, leafOf] at unnamed ⊢
  simp [unnamed]

/-- A segment that is needed is one on the way to the leaf, or the leaf of a write. -/
theorem split_of_needed (split : needed c = front ++ s :: rest) :
    (leafOf c.path).isEmpty = false ∧
      ((∃ later, (Path.segments c.path).dropLast = front ++ s :: later) ∨
        (Path.segments c.path).dropLast = front ++ [] ∧ leafOf c.path = s ∧
          c.operation ≠ .delete) := by
  by_cases unnamed : (leafOf c.path).isEmpty = true
  · rw [needed_of_no_leaf unnamed] at split
    cases front <;> cases split
  have named := Bool.eq_false_iff.mpr unnamed
  refine ⟨named, ?_⟩
  rw [needed_of_leaf named] at split
  split at split
  · exact .inl ⟨rest, split⟩
  next writes =>
    rw [segments_eq] at split
    rcases List.eq_nil_or_concat rest with rfl | ⟨later, leaf, rfl⟩
    · obtain ⟨same, last⟩ := List.append_inj' split rfl
      cases last
      exact .inr ⟨by rw [same, List.append_nil], rfl, writes⟩
    · rw [List.concat_eq_append, ← List.cons_append, ← List.append_assoc] at split
      exact .inl ⟨later, (List.append_inj' split rfl).1⟩

/-- A change writes the child at each segment that it needs. -/
theorem exists_applyOne_eq_putAt (split : needed c = front ++ s :: rest)
    (found : Path.follow? front v = some u) (place : HasPlace s u) (hu : u.isContainer) :
    ∃ x fault, applyOne c v = (putAt front (putChild s x u) v, fault) := by
  obtain ⟨named, ⟨later, split⟩ | ⟨split, leaf, writes⟩⟩ := split_of_needed split
  · rw [applyOne_of_leaf named, split, descend_append found hu, descend_cons_of_hasPlace hu place]
    exact ⟨_, _, rfl⟩
  · have edit (w : Value) :
        editOf c s w = setLeaf c.path s (c.newValue.getD .null) w := by
      cases h : c.operation
      case delete => contradiction
      all_goals simp [editOf, h]
    rw [applyOne_of_leaf named, split, descend_append found hu, descend, leaf, edit,
      setLeaf_of_hasPlace place]
    exact ⟨_, _, rfl⟩

/-- An array at some of the segments is too short for the next one, and no array is long enough. -/
def Overflows (capacity : Capacity) : List String → Value → Prop :=
  Meets fun s items => ∃ i, Path.index? s = some i ∧ items.length ≤ i ∧ capacity.length ≤ i

theorem hasRoomAt_of_scalar (scalar : v.isContainer = false) : hasRoomAt capacity s v := by
  cases v with
  | array items => cases scalar
  | _ => rfl

theorem findsRoom_of_scalar (scalar : v.isContainer = false) : findsRoom capacity segments v := by
  induction segments generalizing v with
  | nil => rfl
  | cons s rest ih =>
    have absent : Path.child? s v = none :=
      Option.eq_none_iff_forall_ne_some.mpr fun child found => by
        rw [isContainer_of_hasPlace (hasPlace_of_child? found)] at scalar
        cases scalar
    rw [findsRoom, hasRoomAt_of_scalar scalar, absent]
    exact ih rfl

theorem hasRoomAt_of_child? {x : Value} (found : Path.child? s v = some x) :
    hasRoomAt capacity s v := by
  cases v with
  | array items =>
    obtain ⟨i, index, element⟩ := Option.bind_eq_some_iff.mp found
    obtain ⟨inside, -⟩ := List.getElem?_eq_some_iff.mp element
    simp [hasRoomAt, hasRoom, index, inside]
  | _ => rfl

/-- Where something is found there is room on the way to it. -/
theorem findsRoom_append (found : Path.follow? front v = some u) :
    findsRoom capacity (front ++ rest) v = findsRoom capacity rest u := by
  induction front generalizing v with
  | nil =>
    cases found
    rfl
  | cons s front ih =>
    obtain ⟨child, first, later⟩ := Option.bind_eq_some_iff.mp found
    rw [List.cons_append, findsRoom, hasRoomAt_of_child? first, first]
    exact ih later

/-- Below a value that becomes a container there is as much room as before. -/
theorem findsRoom_container (segments : List String) (v : Value) :
    findsRoom capacity segments (container v) = findsRoom capacity segments v := by
  cases segments with
  | nil => rfl
  | cons s rest =>
    cases v <;> simp [findsRoom, hasRoomAt, container, Value.isContainer, Path.child?]

theorem findsRoom_cons (s : String) (rest : List String) (v : Value) :
    findsRoom capacity (s :: rest) v =
      (findsRoom capacity [s] v && findsRoom capacity rest (below s v)) := by
  rw [below, findsRoom_container]
  simp [findsRoom]

/-- Room for an element is missing just where no array is long enough. -/
theorem findsRoom_eq_false_iff :
    findsRoom capacity segments v = false ↔ Overflows capacity segments v := by
  induction segments generalizing v with
  | nil => exact iff_of_false Bool.noConfusion not_meets_nil
  | cons s rest ih =>
    have below : findsRoom capacity rest ((Path.child? s v).getD .null) = false ↔
        ∃ child, Path.child? s v = some child ∧ Overflows capacity rest child := by
      cases Path.child? s v with
      | none =>
        rw [Option.getD_none, findsRoom_of_scalar rfl]
        simp
      | some child => simp [ih]
    rw [Overflows, meets_cons_iff, ← Overflows, ← below]
    rw [findsRoom, Bool.and_eq_false_iff]
    refine or_congr_left ?_
    cases v with
    | array items => cases index : Path.index? s <;> simp [hasRoomAt, index, hasRoom_eq_false_iff]
    | _ => simp [hasRoomAt]

end Walk

section Runs

variable {capacity : Capacity} {c : AttributeChange} {changes : List AttributeChange} {v w : Value}
  {result : Edited}

theorem executeAll_cons_of_done (room : findsRoom capacity (needed c) v)
    (done : (applyOne c v).2 = none) :
    executeAll capacity (c :: changes) v = executeAll capacity changes (applyOne c v).1 := by
  have split : applyOne c v = ((applyOne c v).1, none) := Prod.ext rfl done
  rw [executeAll, if_pos room, split]

theorem executeAll_cons_of_failed (room : findsRoom capacity (needed c) v)
    (failed : (applyOne c v).2 ≠ none) :
    executeAll capacity (c :: changes) v = some (applyOne c v) := by
  rw [executeAll, if_pos room]
  split
  · next done => simp [done] at failed
  · rfl

theorem executeAll_cons_of_no_room (narrow : findsRoom capacity (needed c) v = false) :
    executeAll capacity (c :: changes) v = none := by
  rw [executeAll, if_neg (Bool.eq_false_iff.mp narrow)]

theorem executeAll_singleton (c : AttributeChange) (v : Value) :
    executeAll capacity [c] v =
      if findsRoom capacity (needed c) v then some (applyOne c v) else none := by
  cases room : findsRoom capacity (needed c) v with
  | false => exact executeAll_cons_of_no_room room
  | true =>
    by_cases done : (applyOne c v).2 = none
    · rw [executeAll_cons_of_done room done]
      exact congrArg some (Prod.ext rfl done.symm)
    · exact executeAll_cons_of_failed room done

/-- A run that does not break off leaves behind what a run with room for every array does. -/
theorem applyAll_of_executeAll (ran : executeAll capacity changes v = some result) :
    applyAll changes v = result := by
  induction changes generalizing v with
  | nil => exact Option.some.inj ran
  | cons c changes ih =>
    cases room : findsRoom capacity (needed c) v with
    | false =>
      rw [executeAll_cons_of_no_room room] at ran
      cases ran
    | true =>
      by_cases done : (applyOne c v).2 = none
      · rw [executeAll_cons_of_done room done] at ran
        rw [applyAll_cons_of_done done, ih ran]
      · rw [executeAll_cons_of_failed room done] at ran
        rw [applyAll_cons_of_failed done, Option.some.inj ran]

/-- A run breaks off at the first change that asks for too long an array. -/
theorem executeAll_eq_none_iff : executeAll capacity changes v = none ↔
    ∃ earlier c later w, changes = earlier ++ c :: later ∧ applyAll earlier v = (w, none) ∧
      Overflows capacity (needed c) w := by
  simp only [← findsRoom_eq_false_iff]
  constructor
  · intro stopped
    induction changes generalizing v with
    | nil => cases stopped
    | cons c changes ih =>
      cases room : findsRoom capacity (needed c) v with
      | false => exact ⟨[], c, changes, v, rfl, rfl, room⟩
      | true =>
        by_cases done : (applyOne c v).2 = none
        · rw [executeAll_cons_of_done room done] at stopped
          obtain ⟨earlier, d, later, w, rfl, run, narrow⟩ := ih stopped
          exact ⟨c :: earlier, d, later, w, rfl, applyAll_cons_eq_iff.mpr ⟨done, run⟩, narrow⟩
        · rw [executeAll_cons_of_failed room done] at stopped
          cases stopped
  · rintro ⟨earlier, c, later, w, rfl, run, narrow⟩
    induction earlier generalizing v with
    | nil =>
      cases run
      exact executeAll_cons_of_no_room narrow
    | cons d earlier ih =>
      obtain ⟨done, run⟩ := applyAll_cons_eq_iff.mp run
      cases room : findsRoom capacity (needed d) v with
      | false => exact executeAll_cons_of_no_room room
      | true =>
        rw [List.cons_append, executeAll_cons_of_done room done]
        exact ih run

variable {document after : Object} {fault : Option PathError} {front rest : List String}
  {s : String} {items : List Value} {i : Nat}

theorem apply_of_execute (ran : execute capacity changes document = some (after, fault)) :
    apply changes document = (after, fault) := by
  obtain ⟨result, ran, same⟩ := Option.map_eq_some_iff.mp ran
  rw [apply, applyAll_of_executeAll ran, ← same]

theorem execute_eq_some_iff :
    execute capacity changes document = some (after, fault) ↔
      executeAll capacity changes (.object document) = some (.object after, fault) := by
  rw [execute, Option.map_eq_some_iff]
  constructor
  · rintro ⟨⟨root, stopped⟩, ran, same⟩
    obtain ⟨members, object⟩ := applyAll_object changes document
    rw [applyAll_of_executeAll ran] at object
    cases object
    cases same
    exact ran
  · intro ran
    exact ⟨_, ran, rfl⟩

theorem execute_singleton (c : AttributeChange) (document : Object) :
    execute capacity [c] document =
      if findsRoom capacity (needed c) (.object document) then some (apply [c] document)
      else none := by
  rw [execute, executeAll_singleton, apply, applyAll_singleton]
  split <;> rfl

/-- Where a change leads through an index of an array, or writes there, the array grows just as far
as the index asks. -/
theorem apply_grows (split : needed c = front ++ s :: rest)
    (found : Path.follow? front (.object document) = some (.array items))
    (index : Path.index? s = some i) (ran : apply [c] document = (after, fault)) :
    ∃ items', Path.follow? front (.object after) = some (.array items') ∧
      Grown items i items' := by
  have place : HasPlace s (.array items) := Option.isSome_iff_exists.mpr ⟨i, index⟩
  obtain ⟨x, stopped, made⟩ := exists_applyOne_eq_putAt split found place rfl
  have grown : putChild s x (.array items) = .array ((grow items i).set i x) := by
    rw [putChild, index]
  rw [apply_eq_iff, applyAll_singleton, made, grown] at ran
  refine ⟨_, ?_, grown_set_grow items i x⟩
  rw [← (Prod.mk.inj ran).1]
  exact follow?_putAt found _

theorem execute_eq_none_iff : execute capacity changes document = none ↔
    ∃ earlier c later w, changes = earlier ++ c :: later ∧ apply earlier document = (w, none) ∧
      Overflows capacity (needed c) (.object w) := by
  rw [execute, Option.map_eq_none_iff, executeAll_eq_none_iff]
  simp only [apply_eq_iff]
  constructor
  · rintro ⟨earlier, c, later, w, split, run, overflows⟩
    obtain ⟨after, object⟩ := applyAll_object earlier document
    rw [run] at object
    subst object
    exact ⟨earlier, c, later, after, split, run, overflows⟩
  · rintro ⟨earlier, c, later, w, split, run, overflows⟩
    exact ⟨earlier, c, later, _, split, run, overflows⟩

/-- A change makes each array that it leads through, or writes in, just as long as its index asks,
with nulls in the places between. It computes that length without overflow, and stays within the
capacity. -/
def Grows (capacity : Capacity) (c : AttributeChange) (document : Object) : Prop :=
  ∀ (front rest : List String) (s : String) (items : List Value) (i : Nat),
    needed c = front ++ s :: rest →
    Path.follow? front (.object document) = some (.array items) → Path.index? s = some i →
    ∃ items', Path.follow? front (.object (apply [c] document).1) = some (.array items') ∧
      Grown items i items' ∧
      (items.length ≤ i → items'.length = (lengthFor i).toNat ∧ items'.length ≤ capacity.length)

theorem grows_of_not_overflows (fits : ¬ Overflows capacity (needed c) (.object document)) :
    Grows capacity c document := by
  intro front rest s items i split found index
  obtain ⟨items', there, grown⟩ := apply_grows split found index rfl
  refine ⟨items', there, grown, fun new => ?_⟩
  have small := capacity.small
  have within : i < capacity.length := by
    by_contra above
    exact fits ⟨front, s, rest, items, split, found, i, index, new, Nat.le_of_not_lt above⟩
  rw [grown.length, toNat_lengthFor]
  omega

/-- A run leaves nothing behind just where a change, after others that succeeded, needs an element
that no array is long enough for. Any other run ends as it does with room for every element, and
each change that it comes to makes its arrays as long as they have to be. -/
theorem execute_grows (capacity : Capacity) (changes : List AttributeChange) (document : Object) :
    (execute capacity changes document = none ↔ ∃ earlier c later w,
      changes = earlier ++ c :: later ∧ apply earlier document = (w, none) ∧
        Overflows capacity (needed c) (.object w)) ∧
    ∀ result, execute capacity changes document = some result →
      apply changes document = result ∧
      ∀ earlier c later w, changes = earlier ++ c :: later →
        apply earlier document = (w, none) → Grows capacity c w := by
  refine ⟨execute_eq_none_iff, fun result ran => ⟨apply_of_execute ran, ?_⟩⟩
  intro earlier c later w split run
  refine grows_of_not_overflows fun overflows => ?_
  rw [execute_eq_none_iff.mpr ⟨earlier, c, later, w, split, run, overflows⟩] at ran
  cases ran

end Runs

end Change

namespace Sample

/-- Elements of 32 bytes. -/
def capacity : Change.Capacity := ⟨2 ^ (58 : Nat) - 1, by decide⟩

/-- Guests by seat. -/
def table : Object := [("seats", .array [.string "Ada"])]

/-- A change that seats a guest. -/
def seat (place : String) : AttributeChange :=
  { path := "seats." ++ place, operation := .update, newValue := some (.string "Grace") }

/-- The table with two free seats between the guests. -/
def seated : Object := [("seats", .array [.string "Ada", .null, .null, .string "Grace"])]

theorem execute_grows_of_table :
    Change.apply [seat "3"] table = (seated, none) ∧ Change.Grows capacity (seat "3") table ∧
      ∃ seats, Path.follow? ["seats"] (.object seated) = some (.array seats) ∧
        Change.Grown [.string "Ada"] 3 seats ∧
        (1 ≤ 3 → seats.length = (Change.lengthFor 3).toNat ∧ seats.length ≤ capacity.length) := by
  have ran : Change.execute capacity [seat "3"] table = some (seated, none) := rfl
  have split : Change.needed (seat "3") = ["seats"] ++ ["3"] := by decide +kernel
  have index : Path.index? "3" = some 3 := by decide +kernel
  obtain ⟨done, grows⟩ := (Change.execute_grows capacity [seat "3"] table).2 _ ran
  have here := grows [] (seat "3") [] table rfl rfl
  have grown := here _ _ _ _ _ split rfl index
  rw [done] at grown
  exact ⟨done, here, grown⟩

/-- No table is left behind when the guest asks for the last word, whatever the capacity. -/
theorem execute_breaks_off :
    ¬ ∃ capacity : Change.Capacity, ∀ (c : AttributeChange) (document : Object)
        (front rest : List String) (s : String) (items : List Value) (i : Nat),
      Change.needed c = front ++ s :: rest →
      Path.follow? front (.object document) = some (.array items) → Path.index? s = some i →
      ∃ after fault items', Change.execute capacity [c] document = some (after, fault) ∧
        Path.follow? front (.object after) = some (.array items') ∧
        Change.Grown items i items' := by
  rintro ⟨capacity, claimed⟩
  have split : Change.needed (seat "18446744073709551615") =
      ["seats"] ++ ["18446744073709551615"] := by
    decide +kernel
  have index : Path.index? "18446744073709551615" = some 18446744073709551615 := by decide +kernel
  have small := capacity.small
  have stopped : Change.execute capacity [seat "18446744073709551615"] table = none :=
    Change.execute_eq_none_iff.mpr ⟨[], _, [], table, rfl, rfl, ["seats"], _, [], _, split, rfl,
      _, index, by decide, by omega⟩
  obtain ⟨after, fault, -, ran, -⟩ := claimed _ table _ _ _ _ _ split rfl index
  rw [stopped] at ran
  cases ran

end Sample

end DocumentMigration
