import DocumentMigration.Store.Basic
import Mathlib.Data.List.Forall2

/-! Runs of actions and of fallible traversals, taken apart: where a run fails, there is a first
step that failed, and everything before it has run. -/
namespace DocumentMigration

namespace Action

variable {σ ε α β γ : Type}

@[simp] theorem run_pure (a : α) (s : σ) : (pure a : Action σ ε α).run s = (.ok a, s) := rfl

@[simp] theorem run_mk_pure (result : Except ε α) (s : σ) :
    run (ExceptT.mk (pure result) : Action σ ε α) s = (result, s) := rfl

@[simp] theorem run_get (s : σ) : (get : Action σ ε σ).run s = (.ok s, s) := rfl

theorem run_bind (x : Action σ ε α) (f : α → Action σ ε β) (s : σ) :
    (x >>= f).run s = match x.run s with
      | (.ok a, next) => (f a).run next
      | (.error e, next) => (.error e, next) := by
  unfold run ExceptT.run
  simp only [bind, ExceptT.bind, ExceptT.mk, StateT.bind, ExceptT.bindCont]
  cases x s with
  | mk result next => cases result <;> rfl

theorem run_bind_pure (x : Action σ ε α) (f : α → β) (s : σ) :
    (x >>= fun a => pure (f a)).run s = ((x.run s).1.map f, (x.run s).2) := by
  rw [run_bind]
  rcases x.run s with ⟨_ | a, next⟩ <;> rfl

theorem run_bind_eq_ok_iff {x : Action σ ε α} {f : α → Action σ ε β} {s s' : σ} {b : β} :
    (x >>= f).run s = (.ok b, s') ↔
      ∃ a next, x.run s = (.ok a, next) ∧ (f a).run next = (.ok b, s') := by
  rw [run_bind]
  rcases x.run s with ⟨_ | a, next⟩ <;> simp

theorem run_bind_eq_error_iff {x : Action σ ε α} {f : α → Action σ ε β} {s s' : σ} {e : ε} :
    (x >>= f).run s = (.error e, s') ↔ x.run s = (.error e, s') ∨
      ∃ a next, x.run s = (.ok a, next) ∧ (f a).run next = (.error e, s') := by
  rw [run_bind]
  rcases x.run s with ⟨_ | a, next⟩ <;> simp

theorem run_mapM_cons_eq_ok_iff {f : α → Action σ ε β} {x : α} {xs : List α} {s s' : σ}
    {bs : List β} :
    ((x :: xs).mapM f).run s = (.ok bs, s') ↔ ∃ b rest next, bs = b :: rest ∧
      (f x).run s = (.ok b, next) ∧ (xs.mapM f).run next = (.ok rest, s') := by
  rw [List.mapM_cons]
  simp only [run_bind_eq_ok_iff, run_pure, Prod.mk.injEq, Except.ok.injEq]
  constructor
  · rintro ⟨b, next, first, rest, _, later, rfl, rfl⟩
    exact ⟨b, rest, next, rfl, first, later⟩
  · rintro ⟨b, rest, next, rfl, first, later⟩
    exact ⟨b, next, first, rest, s', later, rfl, rfl⟩

/-- What an action leaves as it is, however it ends. -/
def Keeps (view : σ → γ) (action : Action σ ε α) : Prop := ∀ s, view (action.run s).2 = view s

theorem keeps_pure (view : σ → γ) (a : α) : Keeps view (pure a : Action σ ε α) := fun _ => rfl

theorem keeps_mk_pure (view : σ → γ) (result : Except ε α) :
    Keeps view (ExceptT.mk (pure result) : Action σ ε α) := fun _ => rfl

theorem Keeps.bind {view : σ → γ} {x : Action σ ε α} {f : α → Action σ ε β} (first : Keeps view x)
    (later : ∀ a, Keeps view (f a)) : Keeps view (x >>= f) := by
  intro s
  rw [run_bind]
  have kept := first s
  revert kept
  rcases x.run s with ⟨_ | a, next⟩ <;> intro kept
  · exact kept
  · exact (later a next).trans kept

theorem Keeps.view_eq {view : σ → γ} {action : Action σ ε α} (keeps : Keeps view action) {s s' : σ}
    {result : Except ε α} (ended : action.run s = (result, s')) : view s' = view s := by
  have kept := keeps s
  rwa [ended] at kept

theorem Keeps.mapM {view : σ → γ} {f : α → Action σ ε β} (each : ∀ x, Keeps view (f x))
    (xs : List α) : Keeps view (xs.mapM f) := by
  induction xs with
  | nil => exact keeps_pure view []
  | cons x xs ih =>
    rw [List.mapM_cons]
    exact (each x).bind fun b => ih.bind fun bs => keeps_pure view (b :: bs)

theorem run_mapM_cons_eq_error_iff {f : α → Action σ ε β} {x : α} {xs : List α} {s s' : σ}
    {e : ε} :
    ((x :: xs).mapM f).run s = (.error e, s') ↔ (f x).run s = (.error e, s') ∨
      ∃ b next, (f x).run s = (.ok b, next) ∧ (xs.mapM f).run next = (.error e, s') := by
  rw [List.mapM_cons, run_bind_eq_error_iff]
  refine or_congr Iff.rfl (exists_congr fun b => exists_congr fun next => ?_)
  refine and_congr_right fun _ => ?_
  rw [run_bind_eq_error_iff]
  simp

theorem exists_of_mem_run_mapM {f : α → Action σ ε β} {xs : List α} {s s' : σ} {bs : List β} {b : β}
    (done : (xs.mapM f).run s = (.ok bs, s')) (member : b ∈ bs) :
    ∃ x ∈ xs, ∃ before after, (f x).run before = (.ok b, after) := by
  induction xs generalizing s bs with
  | nil =>
    rw [List.mapM_nil, run_pure, Prod.mk.injEq] at done
    cases done.1
    cases member
  | cons x xs ih =>
    obtain ⟨first, rest, next, rfl, here, later⟩ := run_mapM_cons_eq_ok_iff.mp done
    rcases List.mem_cons.mp member with rfl | member
    · exact ⟨x, List.mem_cons_self, s, next, here⟩
    · obtain ⟨y, inRest, found⟩ := ih later member
      exact ⟨y, List.mem_cons_of_mem _ inRest, found⟩

/-- A traversal that fails has a first item that failed. -/
theorem run_mapM_eq_error {f : α → Action σ ε β} {xs : List α} {s s' : σ} {e : ε}
    (failed : (xs.mapM f).run s = (.error e, s')) :
    ∃ before x after bs next, xs = before ++ x :: after ∧
      (before.mapM f).run s = (.ok bs, next) ∧ (f x).run next = (.error e, s') := by
  induction xs generalizing s with
  | nil => simp at failed
  | cons x xs ih =>
    rcases run_mapM_cons_eq_error_iff.mp failed with here | ⟨b, next, first, later⟩
    · exact ⟨[], x, xs, [], s, rfl, rfl, here⟩
    · obtain ⟨before, y, after, bs, stop, rfl, done, here⟩ := ih later
      exact ⟨x :: before, y, after, b :: bs, stop, rfl,
        run_mapM_cons_eq_ok_iff.mpr ⟨b, bs, next, rfl, first, done⟩, here⟩

end Action

theorem exists_of_forall₂ {α β : Type} {r : α → β → Prop} {as : List α} {bs : List β} {b : β}
    (related : List.Forall₂ r as bs) (member : b ∈ bs) : ∃ a ∈ as, r a b := by
  induction related with
  | nil => cases member
  | @cons a b' as bs here _ ih =>
    rcases List.mem_cons.mp member with rfl | member
    · exact ⟨a, List.mem_cons_self, here⟩
    · obtain ⟨a, known, found⟩ := ih member
      exact ⟨a, List.mem_cons_of_mem _ known, found⟩

namespace Except

variable {ε α β γ : Type} {f : α → Except ε β}

theorem bind_eq_ok_iff {x : Except ε α} {b : β} :
    (x >>= f) = .ok b ↔ ∃ a, x = .ok a ∧ f a = .ok b := by
  cases x <;> simp [bind, Except.bind]

theorem bind_eq_error_iff {x : Except ε α} {f : α → Except ε β} {e : ε} :
    (x >>= f) = .error e ↔ x = .error e ∨ ∃ a, x = .ok a ∧ f a = .error e := by
  cases x <;> simp [bind, Except.bind]

theorem map_eq_ok_iff {x : Except ε α} {g : α → β} {b : β} :
    x.map g = .ok b ↔ ∃ a, x = .ok a ∧ b = g a := by
  cases x <;> simp [Except.map, eq_comm]

theorem mapM_cons_eq_ok_iff {x : α} {xs : List α} {ys : List β} :
    (x :: xs).mapM f = .ok ys ↔ ∃ y rest, ys = y :: rest ∧ f x = .ok y ∧ xs.mapM f = .ok rest := by
  rw [List.mapM_cons]
  cases f x with
  | error e => simp [bind, Except.bind]
  | ok y =>
    cases xs.mapM f with
    | error e => simp [bind, Except.bind]
    | ok rest => simp [bind, Except.bind, pure, Except.pure, eq_comm]

theorem mapM_append_singleton {xs : List α} {ys : List β} (done : xs.mapM f = .ok ys) (x : α) :
    (xs ++ [x]).mapM f = (f x).map fun y => ys ++ [y] := by
  rw [List.mapM_append, done, List.mapM_cons]
  cases f x <;> rfl

theorem mapM_append_cons_eq_ok {earlier later : List α} {x : α} {ys : List β}
    (done : (earlier ++ x :: later).mapM f = .ok ys) :
    ∃ before y after, ys = before ++ y :: after ∧ f x = .ok y ∧ later.mapM f = .ok after := by
  rw [List.mapM_append, bind_eq_ok_iff] at done
  obtain ⟨before, _, done⟩ := done
  obtain ⟨rest, later, done⟩ := bind_eq_ok_iff.mp done
  obtain ⟨y, after, rfl, here, later⟩ := mapM_cons_eq_ok_iff.mp later
  cases done
  exact ⟨before, y, after, rfl, here, later⟩

theorem mapM_eq_ok_iff {xs : List α} {ys : List β} :
    xs.mapM f = .ok ys ↔ List.Forall₂ (fun x y => f x = .ok y) xs ys := by
  induction xs generalizing ys with
  | nil => simp [pure, Except.pure, eq_comm]
  | cons x xs ih =>
    rw [mapM_cons_eq_ok_iff, List.forall₂_cons_left_iff]
    constructor
    · rintro ⟨y, rest, rfl, first, later⟩
      exact ⟨y, rest, first, ih.mp later, rfl⟩
    · rintro ⟨y, rest, first, later, rfl⟩
      exact ⟨y, rest, rfl, first, ih.mpr later⟩

theorem exists_of_mem_mapM {xs : List α} {ys : List β} (done : xs.mapM f = .ok ys) {y : β}
    (member : y ∈ ys) : ∃ x ∈ xs, f x = .ok y :=
  exists_of_forall₂ (r := fun x y => f x = .ok y) (mapM_eq_ok_iff.mp done) member

theorem exists_mem_of_mapM {xs : List α} {ys : List β} (done : xs.mapM f = .ok ys) {x : α}
    (member : x ∈ xs) : ∃ y ∈ ys, f x = .ok y :=
  exists_of_forall₂ (mapM_eq_ok_iff.mp done).flip member

theorem exists_of_foldlM_eq_error {f : β → α → Except ε β} {xs : List α} {b : β} {e : ε}
    (failed : xs.foldlM f b = .error e) : ∃ x ∈ xs, ∃ b, f b x = .error e := by
  induction xs generalizing b with
  | nil => cases failed
  | cons x xs ih =>
    rw [List.foldlM_cons] at failed
    cases first : f b x with
    | error e' =>
      rw [first] at failed
      cases failed
      exact ⟨x, List.mem_cons_self, b, first⟩
    | ok next =>
      rw [first] at failed
      obtain ⟨y, member, stopped⟩ := ih failed
      exact ⟨y, List.mem_cons_of_mem _ member, stopped⟩

theorem mapM_cons_eq_error_iff {x : α} {xs : List α} {e : ε} :
    (x :: xs).mapM f = .error e ↔
      f x = .error e ∨ ∃ y, f x = .ok y ∧ xs.mapM f = .error e := by
  rw [List.mapM_cons]
  cases f x with
  | error e => simp [bind, Except.bind]
  | ok y => cases xs.mapM f <;> simp [bind, Except.bind, pure, Except.pure]

theorem exists_of_mapM_eq_error {xs : List α} {e : ε} (failed : xs.mapM f = .error e) :
    ∃ x ∈ xs, f x = .error e := by
  induction xs with
  | nil => cases failed
  | cons x xs ih =>
    rcases mapM_cons_eq_error_iff.mp failed with here | ⟨_, _, later⟩
    · exact ⟨x, List.mem_cons_self, here⟩
    · obtain ⟨y, member, found⟩ := ih later
      exact ⟨y, List.mem_cons_of_mem _ member, found⟩

theorem exists_mapM_eq_ok {xs : List α} (each : ∀ x ∈ xs, ∃ y, f x = .ok y) :
    ∃ ys, xs.mapM f = .ok ys := by
  cases ended : xs.mapM f with
  | ok ys => exact ⟨ys, rfl⟩
  | error e =>
    obtain ⟨x, member, failed⟩ := exists_of_mapM_eq_error ended
    obtain ⟨y, done⟩ := each x member
    rw [failed] at done
    cases done

theorem mapM_congr {g : α → Except ε β} {xs : List α} (same : ∀ x ∈ xs, f x = g x) :
    xs.mapM f = xs.mapM g := by
  induction xs with
  | nil => rfl
  | cons x xs ih =>
    obtain ⟨first, later⟩ := List.forall_mem_cons.mp same
    rw [List.mapM_cons, List.mapM_cons, first, ih later]

/-- Two traversals of which one only looks at the results of the other fail alike. -/
theorem mapM_map (f : α → Except ε β) (g : β → γ) (xs : List α) :
    (xs.mapM fun x => (f x).map g) = (xs.mapM f).map (List.map g) := by
  induction xs with
  | nil => rfl
  | cons x xs ih =>
    rw [List.mapM_cons, List.mapM_cons, ih]
    cases f x with
    | error e => rfl
    | ok y => cases xs.mapM f <;> rfl

end Except

theorem forall_iff_of_forall₂ {α β : Type} {r : α → β → Prop} {p : α → Prop} {q : β → Prop}
    (same : ∀ a b, r a b → (p a ↔ q b)) {as : List α} {bs : List β}
    (related : List.Forall₂ r as bs) :
    (∀ a ∈ as, p a) ↔ ∀ b ∈ bs, q b := by
  induction related with
  | nil => simp
  | cons head _ ih => rw [List.forall_mem_cons, List.forall_mem_cons, same _ _ head, ih]

end DocumentMigration
