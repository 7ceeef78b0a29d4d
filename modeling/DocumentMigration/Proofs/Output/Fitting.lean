import DocumentMigration.Output.Table
import Mathlib.Algebra.Order.BigOperators.Group.List
import Mathlib.Algebra.Order.Ring.Nat
import Mathlib.Logic.Relation

/-!
How the columns of a table are fitted to a width. Turn by turn the widest of the columns that are
above their floors gives up a character, until the line fits or every column stands on its floor.
What is left is as wide as the limit asks, within the floors and the contents.
-/
namespace DocumentMigration.Table

/-- The maximum of a list, from a first value on, is the least bound of all. -/
theorem foldl_max_le_iff {α : Type} (measure : α → Nat) (as : List α) (first bound : Nat) :
    as.foldl (fun n a => max n (measure a)) first ≤ bound ↔
      first ≤ bound ∧ ∀ a ∈ as, measure a ≤ bound := by
  induction as generalizing first with
  | nil => simp
  | cons a as ih => rw [List.foldl_cons, ih, Nat.max_le, List.forall_mem_cons, and_assoc]

theorem longest_le_iff {rows : List (List String)} {index bound : Nat} :
    longest rows index ≤ bound ↔
      ∀ row ∈ rows, ∀ cell, row[index]? = some cell → cell.length ≤ bound := by
  rw [longest, foldl_max_le_iff]
  simp only [List.mem_filterMap, forall_exists_index, and_imp, Nat.zero_le, true_and]
  constructor
  · intro within row member cell found
    exact within cell row member found
  · intro within cell row member found
    exact within row member cell found

namespace Column

/-- The column as narrow as it may get. -/
def atFloor (c : Column) : Column := { c with width := c.floor }

/-- The column with a character less. -/
def narrowed (c : Column) : Column := { c with width := c.width - 1 }

@[simp] theorem floor_narrowed (c : Column) : c.narrowed.floor = c.floor := rfl

@[simp] theorem atFloor_narrowed (c : Column) : c.narrowed.atFloor = c.atFloor := rfl

theorem shrinks_iff {c : Column} : c.shrinks ↔ c.floor < c.width := decide_eq_true_iff

theorem floor_pos (c : Column) : 0 < c.floor :=
  Nat.lt_of_lt_of_le (by decide) (Nat.le_max_right _ 6)

end Column

variable {columns shrunk : List Column} {limit width : Nat}

theorem totalWidth_eq (columns : List Column) :
    totalWidth columns = (columns.map (·.width)).sum + 2 * (columns.length - 1) := by
  have fold (cs : List Column) (n : Nat) :
      cs.foldl (fun n c => n + c.width) n = n + (cs.map (·.width)).sum := by
    induction cs generalizing n with
    | nil => rfl
    | cons c cs ih => rw [List.foldl_cons, ih, List.map_cons, List.sum_cons, Nat.add_assoc]
  rw [totalWidth, fold, Nat.zero_add]

/-- One turn of the fitting, while a line is too wide: of the widest columns above their floors the
last one gives up a character. -/
inductive Turn (limit : Nat) : List Column → List Column → Prop
  | narrow {before c after} (wide : limit < totalWidth (before ++ c :: after))
    (above : c.floor < c.width)
    (widest : ∀ other ∈ before ++ after, other.floor < other.width → other.width ≤ c.width)
    (last : ∀ other ∈ after, other.floor < other.width → other.width ≠ c.width) :
    Turn limit (before ++ c :: after) (before ++ c.narrowed :: after)

section Loop

theorem widest_le_iff {bound : Nat} :
    widest columns ≤ bound ↔ ∀ c ∈ columns, c.floor < c.width → c.width ≤ bound := by
  rw [widest, foldl_max_le_iff]
  simp [List.mem_filter, Column.shrinks_iff]

theorem shrinkLast_eq_none : shrinkLast width columns = none ↔
    ∀ c ∈ columns, c.floor < c.width → c.width ≠ width := by
  induction columns with
  | nil => simp [shrinkLast]
  | cons c rest ih =>
    rw [shrinkLast, List.forall_mem_cons, ← ih]
    cases shrinkLast width rest <;> simp [Column.shrinks_iff]

theorem shrinkLast_append {before after : List Column} {c : Column} (above : c.floor < c.width)
    (last : ∀ other ∈ after, other.floor < other.width → other.width ≠ c.width) :
    shrinkLast c.width (before ++ c :: after) = some (before ++ c.narrowed :: after) := by
  induction before with
  | nil =>
    rw [List.nil_append, shrinkLast, shrinkLast_eq_none.mpr last]
    simp [Column.shrinks_iff.mpr above, Column.narrowed]
  | cons d before ih => rw [List.cons_append, shrinkLast, ih, List.cons_append]

theorem shrinkLast_eq_some (found : shrinkLast width columns = some shrunk) :
    ∃ before c after, columns = before ++ c :: after ∧ shrunk = before ++ c.narrowed :: after ∧
      c.floor < c.width ∧ c.width = width ∧
      ∀ other ∈ after, other.floor < other.width → other.width ≠ c.width := by
  induction columns generalizing shrunk with
  | nil => cases found
  | cons d rest ih =>
    rw [shrinkLast] at found
    rcases later : shrinkLast width rest with _ | shrunkRest <;> rw [later] at found
    · obtain ⟨here, same⟩ := Option.ite_none_right_eq_some.mp found
      obtain ⟨above, widths⟩ : d.shrinks = true ∧ d.width = width := by simpa using here
      cases same
      refine ⟨[], d, rest, rfl, rfl, Column.shrinks_iff.mp above, widths, ?_⟩
      rw [widths]
      exact shrinkLast_eq_none.mp later
    · cases found
      obtain ⟨before, c, after, rfl, rfl, facts⟩ := ih later
      exact ⟨d :: before, c, after, rfl, rfl, facts⟩

/-- The loop takes a turn where one is possible, and stops only where every column stands on its
floor. -/
theorem turn_iff : Turn limit columns shrunk ↔
    limit < totalWidth columns ∧ shrinkLast (widest columns) columns = some shrunk := by
  constructor
  · rintro @⟨before, c, after, wide, above, others, last⟩
    have same : widest (before ++ c :: after) = c.width := by
      apply Nat.le_antisymm
      · refine widest_le_iff.mpr fun other member => ?_
        rcases List.mem_append.mp member with inBefore | member
        · exact others other (List.mem_append_left _ inBefore)
        · rcases List.mem_cons.mp member with rfl | inAfter
          · exact fun _ => Nat.le_refl _
          · exact others other (List.mem_append_right _ inAfter)
      · exact widest_le_iff.mp (Nat.le_refl _) c (by simp) above
    rw [same]
    exact ⟨wide, shrinkLast_append above last⟩
  · rintro ⟨wide, found⟩
    obtain ⟨before, c, after, rfl, rfl, above, widths, last⟩ := shrinkLast_eq_some found
    refine .narrow wide above (fun other member => ?_) last
    rw [widths]
    refine widest_le_iff.mp (Nat.le_refl _) other ?_
    rcases List.mem_append.mp member with inBefore | inAfter
    · exact List.mem_append_left _ inBefore
    · exact List.mem_append_right _ (List.mem_cons_of_mem _ inAfter)

theorem shrinkLast_widest_eq_none :
    shrinkLast (widest columns) columns = none ↔ ∀ c ∈ columns, c.width ≤ c.floor := by
  rw [shrinkLast_eq_none]
  constructor
  · intro fixed c member
    by_contra above
    -- The width of the widest column would be its own only bound, and could be lowered by one.
    have bound : widest columns ≤ widest columns - 1 := by
      refine widest_le_iff.mpr fun other inside shrinks => ?_
      have le := widest_le_iff.mp (Nat.le_refl _) other inside shrinks
      have ne := fixed other inside shrinks
      omega
    have le := widest_le_iff.mp bound c member (Nat.lt_of_not_le above)
    have pos := c.floor_pos
    omega
  · intro floors c member above
    exact absurd above (Nat.not_lt.mpr (floors c member))

end Loop

section Turns

/-- No column is below its floor. -/
def Standing (columns : List Column) : Prop := ∀ c ∈ columns, c.floor ≤ c.width

theorem Turn.totalWidth (turn : Turn limit columns shrunk) :
    totalWidth shrunk + 1 = totalWidth columns := by
  obtain @⟨before, c, after, -, above, -, -⟩ := turn
  have narrowed : c.narrowed.width + 1 = c.width := Nat.sub_add_cancel (Nat.one_le_of_lt above)
  simp only [totalWidth_eq, List.map_append, List.map_cons, List.sum_append, List.sum_cons,
    List.length_append, List.length_cons]
  omega

theorem Turn.standing (turn : Turn limit columns shrunk) (standing : Standing columns) :
    Standing shrunk := by
  obtain @⟨before, c, after, -, above, -, -⟩ := turn
  have narrowed : c.narrowed.floor ≤ c.narrowed.width := Nat.le_sub_one_of_lt above
  rw [Standing, List.forall_mem_append, List.forall_mem_cons] at standing ⊢
  exact ⟨standing.1, narrowed, standing.2.2⟩

theorem Turn.atFloor (turn : Turn limit columns shrunk) :
    shrunk.map Column.atFloor = columns.map Column.atFloor := by
  obtain @⟨before, c, after⟩ := turn
  simp

/-- What any number of turns leaves. -/
structure Fitted (limit : Nat) (columns shrunk : List Column) : Prop where
  standing : Standing columns → Standing shrunk
  atFloor : shrunk.map Column.atFloor = columns.map Column.atFloor
  narrower : totalWidth shrunk ≤ totalWidth columns
  wide : min (totalWidth columns) limit ≤ totalWidth shrunk

theorem fitted_of_turns (turns : Relation.ReflTransGen (Turn limit) columns shrunk) :
    Fitted limit columns shrunk := by
  induction turns with
  | refl => exact ⟨id, rfl, Nat.le_refl _, Nat.min_le_left _ _⟩
  | tail _ turn ih =>
    have less := turn.totalWidth
    have wide := (turn_iff.mp turn).1
    exact ⟨turn.standing ∘ ih.standing, turn.atFloor.trans ih.atFloor,
      by have := ih.narrower; omega, by omega⟩

/-- No turn is possible. -/
def Settled (limit : Nat) (columns : List Column) : Prop := ∀ next, ¬Turn limit columns next

theorem settled_iff :
    Settled limit columns ↔ totalWidth columns ≤ limit ∨ ∀ c ∈ columns, c.width ≤ c.floor := by
  simp only [Settled, turn_iff, ← shrinkLast_widest_eq_none, not_and,
    Option.eq_none_iff_forall_ne_some]
  constructor
  · intro stuck
    by_cases fits : totalWidth columns ≤ limit
    · exact .inl fits
    · exact .inr fun next => stuck next (Nat.lt_of_not_le fits)
  · rintro (fits | floors) next wide
    · exact absurd fits (Nat.not_le.mpr wide)
    · exact floors next

theorem totalWidth_of_floors (floors : ∀ c ∈ columns, c.width = c.floor) :
    totalWidth columns = totalWidth (columns.map Column.atFloor) := by
  have same : columns.map Column.atFloor = columns := by
    refine (List.map_congr_left fun c member => ?_).trans columns.map_id
    rw [Column.atFloor, ← floors c member]
    rfl
  rw [same]

theorem totalWidth_atFloor_le (standing : Standing columns) :
    totalWidth (columns.map Column.atFloor) ≤ totalWidth columns := by
  simp only [totalWidth_eq, List.length_map, List.map_map]
  refine Nat.add_le_add_right ?_ _
  exact List.sum_le_sum standing

/-- Columns that are fitted to the end are as wide as the limit asks, but no wider than at first and
no narrower than their floors. -/
theorem Fitted.totalWidth_eq (fitted : Fitted limit columns shrunk) (standing : Standing columns)
    (settled : Settled limit shrunk) :
    totalWidth shrunk =
      max (totalWidth (columns.map Column.atFloor)) (min (totalWidth columns) limit) := by
  have stands := fitted.standing standing
  have floors := totalWidth_atFloor_le stands
  have wide := fitted.wide
  have narrower := fitted.narrower
  rw [← fitted.atFloor]
  rcases settled_iff.mp settled with fits | low
  · omega
  · have least := totalWidth_of_floors fun c member =>
      Nat.le_antisymm (low c member) (stands c member)
    omega

theorem turns_shrink (excess : Nat) (wide : totalWidth columns - limit = excess) :
    Relation.ReflTransGen (Turn limit) columns (shrink excess columns) ∧
      Settled limit (shrink excess columns) := by
  induction excess generalizing columns with
  | zero => exact ⟨.refl, settled_iff.mpr (.inl (Nat.le_of_sub_eq_zero wide))⟩
  | succ excess ih =>
    rw [shrink]
    rcases found : shrinkLast (widest columns) columns with _ | next
    · exact ⟨.refl, settled_iff.mpr (.inr (shrinkLast_widest_eq_none.mp found))⟩
    · have turn : Turn limit columns next := turn_iff.mpr ⟨by omega, found⟩
      have less := turn.totalWidth
      obtain ⟨turns, settled⟩ := @ih next (by omega)
      exact ⟨.head turn turns, settled⟩

/-- Fitting takes turns until none is possible any more. -/
theorem turns_fit (limit : Nat) (columns : List Column) :
    Relation.ReflTransGen (Turn limit) columns (fit (some limit) columns) ∧
      Settled limit (fit (some limit) columns) :=
  turns_shrink _ rfl

/-- There is no turn after turn without an end. -/
theorem wellFounded_turn (limit : Nat) :
    WellFounded fun shrunk columns => Turn limit columns shrunk := by
  refine Subrelation.wf (fun turn => ?_) (measure totalWidth).wf
  have less := turn.totalWidth
  exact less.le

end Turns

end DocumentMigration.Table
