import DocumentMigration.Proofs.Change.Blocked

/-! The part of a walk that leads through containers which are there. It only hands on what the rest
of the walk makes of the last of them, so that two walks can be compared by their rests. -/
namespace DocumentMigration.Change

open Json

/-- A value put at the end of some segments. -/
def putAt : List String → Value → Value → Value
  | [], x, _ => x
  | s :: rest, x, v => putChild s (putAt rest x ((Path.child? s v).getD .null)) v

variable {path s : String} {front tail : List String} {edit : Value → Edited} {v u x y : Value}

theorem putAt_cons (found : Path.child? s v = some u) (front : List String) (x : Value) :
    putAt (s :: front) x v = putChild s (putAt front x u) v := by
  rw [putAt, found, Option.getD_some]

/-- The rest of a walk decides what is put where it starts, and how the walk ends. -/
theorem descend_append (found : Path.follow? front v = some u) (hu : u.isContainer) :
    descend path edit (front ++ tail) v =
      (putAt front (descend path edit tail u).1 v, (descend path edit tail u).2) := by
  induction front generalizing v with
  | nil =>
    cases found
    rfl
  | cons s front ih =>
    obtain ⟨child, first, later⟩ := Option.bind_eq_some_iff.mp found
    have place := hasPlace_of_child? first
    rw [List.cons_append, descend_cons_of_hasPlace (isContainer_of_hasPlace place) place,
      below_of_child? first (isContainer_of_follow? later hu), ih later, putAt_cons first]

/-- What is put there is read there. -/
theorem follow?_putAt (found : Path.follow? front v = some u) (x : Value) :
    Path.follow? front (putAt front x v) = some x := by
  induction front generalizing v with
  | nil => rfl
  | cons s front ih =>
    obtain ⟨child, first, later⟩ := Option.bind_eq_some_iff.mp found
    rw [putAt_cons first, Path.follow?, child?_putChild (hasPlace_of_child? first)]
    exact ih later

theorem follow?_putAt_putChild (found : Path.follow? front v = some u) (place : HasPlace s u)
    (later : List String) (x : Value) :
    Path.follow? (front ++ s :: later) (putAt front (putChild s x u) v) =
      Path.follow? later x := by
  rw [Path.follow?_append, follow?_putAt found, Option.bind_some, Path.follow?,
    child?_putChild place, Option.bind_some]

/-- A later write of a child leaves nothing of an earlier one. -/
theorem putAt_concat (found : Path.follow? front v = some u) :
    putAt (front ++ [s]) x (putAt front (putChild s y u) v) = putAt front (putChild s x u) v := by
  induction front generalizing v with
  | nil =>
    cases found
    exact putChild_putChild
  | cons t front ih =>
    obtain ⟨child, first, later⟩ := Option.bind_eq_some_iff.mp found
    have there : Path.child? t (putChild t (putAt front (putChild s y u) child) v) =
        some (putAt front (putChild s y u) child) :=
      child?_putChild (hasPlace_of_child? first)
    rw [putAt_cons first, putAt_cons first, List.cons_append, putAt_cons there, ih later,
      putChild_putChild]

theorem putAt_eq_self (canonical : v.Canonical) (found : Path.follow? front v = some u) :
    putAt front u v = v := by
  induction front generalizing v with
  | nil =>
    cases found
    rfl
  | cons s front ih =>
    obtain ⟨child, first, later⟩ := Option.bind_eq_some_iff.mp found
    rw [putAt_cons first, ih (canonical.child? first) later, putChild_eq_self canonical first]

end DocumentMigration.Change
