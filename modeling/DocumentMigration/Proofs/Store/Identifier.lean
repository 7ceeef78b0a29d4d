import DocumentMigration.Store.Identifier
import Mathlib.Data.List.Nodup
import Mathlib.Data.List.Range
import Mathlib.Data.List.Perm.Subperm
import Mathlib.Data.Nat.Digits.Defs

/-! A drawn id is not taken: different numbers have different texts, and the source tries more of
them than there are taken ids. -/
namespace DocumentMigration.IdSource

/-- The value of a lower-case hexadecimal digit. -/
def digitValue (c : Char) : Nat := if c.isDigit then c.toNat - 48 else c.toNat - 87

/-- The number that hexadecimal digits denote. -/
def number (digits : List Char) : Nat := digits.foldl (fun n c => 16 * n + digitValue c) 0

theorem number_zeros_append (zeros : Nat) (digits : List Char) :
    number (List.replicate zeros '0' ++ digits) = number digits := by
  have zero : number (List.replicate zeros '0') = 0 := by
    induction zeros with
    | zero => rfl
    | succ zeros ih => exact ih
  rw [number, List.foldl_append]
  exact congrArg (digits.foldl _) zero

theorem digitValue_digitChar {d : Nat} (small : d < 16) : digitValue (Nat.digitChar d) = d := by
  have all : ∀ d < 16, digitValue (Nat.digitChar d) = d := by decide
  exact all d small

theorem number_toDigits (n : Nat) : number (Nat.toDigits 16 n) = n := by
  induction n using Nat.base_induction 16 (by decide) with
  | single m small =>
    rw [Nat.toDigits_of_lt_base small]
    simp [number, digitValue_digitChar small]
  | digit m k small pos ih =>
    rw [← Nat.toDigits_append_toDigits (by decide) pos small, Nat.toDigits_of_lt_base small, number,
      List.foldl_append]
    show 16 * number (Nat.toDigits 16 m) + digitValue (Nat.digitChar k) = _
    rw [ih, digitValue_digitChar small]

/-- Different numbers have different ids. -/
theorem text_injective : Function.Injective text := by
  intro n m same
  have digits := congrArg (fun s => number s.toList) same
  simpa only [text, String.toList_ofList, number_zeros_append, number_toDigits] using digits

theorem null_not_mem_toDigits (n : Nat) : '\x00' ∉ Nat.toDigits 16 n := by
  have digit : ∀ d < 16, '\x00' ∉ [Nat.digitChar d] := by decide
  induction n using Nat.base_induction 16 (by decide) with
  | single m small =>
    rw [Nat.toDigits_of_lt_base small]
    exact digit m small
  | digit m k small pos ih =>
    rw [← Nat.toDigits_append_toDigits (by decide) pos small, Nat.toDigits_of_lt_base small,
      List.mem_append]
    exact not_or.mpr ⟨ih, digit k small⟩

/-- A column gives back the whole of an id that was drawn. -/
theorem null_not_mem_draw (source : IdSource) (taken : List String) :
    '\x00' ∉ (source.draw taken).1.toList := by
  rw [draw, text, String.toList_ofList, List.mem_append]
  rintro (zero | digit)
  · exact absurd (List.eq_of_mem_replicate zero) (by decide)
  · exact null_not_mem_toDigits _ digit

/-- A search either ends at an id that is not taken, or all that it came past are. -/
theorem search_cases (taken : List String) (tries n : Nat) :
    text (search taken tries n) ∉ taken ∨ ∀ i ≤ tries, text (n + i) ∈ taken := by
  induction tries generalizing n with
  | zero =>
    by_cases here : text n ∈ taken
    · refine .inr fun i last => ?_
      rwa [Nat.le_zero.mp last]
    · exact .inl here
  | succ tries ih =>
    rw [search]
    by_cases here : text n ∈ taken
    · rw [if_pos (List.contains_iff_mem.mpr here)]
      refine (ih (n + 1)).imp_right fun all i last => ?_
      cases i with
      | zero => exact here
      | succ i =>
        have later := all i (Nat.le_of_succ_le_succ last)
        rwa [Nat.add_assoc, Nat.add_comm 1] at later
    · rw [if_neg (by simpa using here)]
      exact .inl here

theorem draw_not_mem (source : IdSource) (taken : List String) : (source.draw taken).1 ∉ taken := by
  rcases search_cases taken taken.length source.next with free | all
  · exact free
  -- Otherwise more different ids would be taken than there are.
  · exfalso
    let tried := (List.range (taken.length + 1)).map fun i => text (source.next + i)
    have distinct : tried.Nodup :=
      List.nodup_range.map fun i j same => Nat.add_left_cancel (text_injective same)
    have inside : tried ⊆ taken := by
      intro id member
      obtain ⟨i, inRange, rfl⟩ := List.mem_map.mp member
      exact all i (Nat.le_of_lt_succ (List.mem_range.mp inRange))
    have short := (distinct.subperm inside).length_le
    rw [List.length_map, List.length_range] at short
    omega

end DocumentMigration.IdSource
