import DocumentMigration.Decimal.Shortest
import DocumentMigration.Proofs.Decimal.Rounding
import Mathlib.Tactic.FieldSimp

/-! Reading a decimal rounds its value, so the shortest decimal of a float reads back as that float,
however it is written. -/
namespace DocumentMigration.Binary64

section Reading

variable {digits : Nat} {exponent : Int}

/-- Ten bits are more than three places. -/
theorem le_of_bits (nonzero : digits ≠ 0) : 10 ^ (3 * (digits.log2 / 10)) ≤ digits :=
  calc 10 ^ (3 * (digits.log2 / 10)) = (10 ^ 3) ^ (digits.log2 / 10) := pow_mul ..
    _ ≤ (2 ^ 10) ^ (digits.log2 / 10) := Nat.pow_le_pow_left (by decide) _
    _ = 2 ^ (10 * (digits.log2 / 10)) := (pow_mul ..).symm
    _ ≤ 2 ^ digits.log2 := Nat.pow_le_pow_right two_pos (Nat.mul_div_le ..)
    _ ≤ digits := Nat.log2_self_le nonzero

/-- Three bits are less than one place. -/
theorem lt_of_bits : digits < 10 ^ (digits.log2 / 3 + 1) :=
  calc digits < 2 ^ (digits.log2 + 1) := Nat.lt_log2_self
    _ ≤ 2 ^ (3 * (digits.log2 / 3 + 1)) := Nat.pow_le_pow_right two_pos (by omega)
    _ = (2 ^ 3) ^ (digits.log2 / 3 + 1) := pow_mul ..
    _ ≤ 10 ^ (digits.log2 / 3 + 1) := Nat.pow_le_pow_left (by decide) _

theorem zpow_le_zpow_of_pow_le {a b m n : Nat} (le : a ^ m ≤ b ^ n) :
    (a : ℚ) ^ (m : Int) ≤ (b : ℚ) ^ (n : Int) := by
  rw [zpow_natCast, zpow_natCast]
  exact_mod_cast le

theorem largest_le : (2 : ℚ) ^ (1024 : Int) ≤ 10 ^ (309 : Int) := by
  have powers : 2 ^ 1024 ≤ 10 ^ 309 := by decide +kernel
  simpa only [Nat.cast_ofNat] using zpow_le_zpow_of_pow_le powers

theorem le_least : (10 : ℚ) ^ (-325 : Int) ≤ 2 ^ (-1075 : Int) := by
  have powers : 2 ^ 1075 ≤ 10 ^ 325 := by decide +kernel
  rw [zpow_neg, zpow_neg]
  refine inv_anti₀ (by positivity) ?_
  simpa only [Nat.cast_ofNat] using zpow_le_zpow_of_pow_le powers

/-- A decimal is rounded to the float nearest to its value, where there is one. -/
theorem min_magnitudeOfDecimal (digits : Nat) (exponent : Int) :
    min (magnitudeOfDecimal digits exponent) infinity =
      min (nearest (digits * 10 ^ exponent)) infinity := by
  unfold magnitudeOfDecimal
  dsimp only
  split
  · next zero =>
    rw [zero, Nat.cast_zero, zero_mul, nearest, if_pos rfl]
  · next nonzero =>
    split
    · next large =>
      have reaches : (2 : ℚ) ^ (1024 : Int) ≤ digits * 10 ^ exponent := by
        have places : (10 : ℚ) ^ (3 * (digits.log2 / 10)) ≤ digits := by
          exact_mod_cast le_of_bits nonzero
        calc (2 : ℚ) ^ (1024 : Int) ≤ 10 ^ (309 : Int) := largest_le
          _ ≤ 10 ^ ((3 * (digits.log2 / 10) : Nat) + exponent) :=
            zpow_le_zpow_right₀ (by norm_num) large
          _ = 10 ^ (3 * (digits.log2 / 10)) * 10 ^ exponent := by
            rw [zpow_add₀ (by norm_num), zpow_natCast]
          _ ≤ digits * 10 ^ exponent := mul_le_mul_of_nonneg_right places (by positivity)
      rw [min_self, min_eq_right (infinity_le_nearest reaches)]
    · split
      · next small =>
        have below : (digits : ℚ) * 10 ^ exponent ≤ 2 ^ (-1075 : Int) := by
          have places : (digits : ℚ) ≤ 10 ^ (digits.log2 / 3 + 1) := by
            exact_mod_cast lt_of_bits.le
          calc (digits : ℚ) * 10 ^ exponent ≤ 10 ^ (digits.log2 / 3 + 1) * 10 ^ exponent :=
              mul_le_mul_of_nonneg_right places (by positivity)
            _ = 10 ^ ((digits.log2 / 3 + 1 : Nat) + exponent) := by
              rw [zpow_add₀ (by norm_num), zpow_natCast]
            _ ≤ 10 ^ (-325 : Int) := zpow_le_zpow_right₀ (by norm_num) small
            _ ≤ 2 ^ (-1075 : Int) := le_least
        rw [nearest_eq_zero (by positivity) below]
      · split
        · next nonneg =>
          obtain ⟨e, rfl⟩ := Int.eq_ofNat_of_zero_le nonneg
          rw [magnitudeOfRatio_eq one_pos, Int.toNat_natCast]
          push_cast
          rw [div_one, zpow_natCast]
        · next negative =>
          obtain ⟨e, rfl⟩ : ∃ e : Nat, exponent = -e := ⟨(-exponent).toNat, by omega⟩
          rw [magnitudeOfRatio_eq (by positivity), neg_neg, Int.toNat_natCast, zpow_neg,
            zpow_natCast, div_eq_mul_inv]
          push_cast
          rfl

theorem ofDecimal_eq_some_iff {negative : Bool} {x : Binary64} :
    ofDecimal negative digits exponent = some x ↔
      x.negative = negative ∧ nearest (digits * 10 ^ exponent) = x.magnitude := by
  have capped := min_magnitudeOfDecimal digits exponent
  have finite := x.finite
  unfold ofDecimal
  dsimp only
  split
  · next within =>
    have exact : magnitudeOfDecimal digits exponent = nearest (digits * 10 ^ exponent) := by omega
    rw [← exact, Option.some.injEq]
    constructor
    · rintro rfl
      exact ⟨rfl, rfl⟩
    · rintro ⟨rfl, same⟩
      simp only [same]
  · next beyond =>
    simp only [reduceCtorEq, false_iff, not_and]
    omega

end Reading

/-- The value of a decimal. -/
def Decimal.value (d : Decimal) : ℚ := d.digits * 10 ^ d.exponent

theorem readsAs_iff {d : Decimal} {x : Binary64} : d.readsAs x ↔ nearest d.value = x.magnitude := by
  rw [Decimal.readsAs, decide_eq_true_iff, ofDecimal_eq_some_iff]
  simp [Decimal.value]

theorem value_exactDecimal (x : Binary64) : x.exactDecimal.value = x.value := by
  unfold exactDecimal Decimal.value value
  split
  · next nonneg =>
    obtain ⟨e, power⟩ := Int.eq_ofNat_of_zero_le nonneg
    rw [power, Int.toNat_natCast, zpow_zero, mul_one, zpow_natCast]
    push_cast
    rfl
  · next negative =>
    obtain ⟨e, power⟩ : ∃ e : Nat, x.exponent = -e := ⟨(-x.exponent).toNat, by omega⟩
    have ten : (10 : ℚ) = 5 * 2 := by norm_num
    rw [power, neg_neg, Int.toNat_natCast, zpow_neg, zpow_neg, zpow_natCast, zpow_natCast, ten,
      mul_pow]
    push_cast
    field_simp

/-- The shortest decimal reads back. -/
theorem shortest_readsAs (x : Binary64) : x.shortest.readsAs x := by
  unfold shortest
  dsimp only
  cases found : ((List.range 17).flatMap fun n => neighbours x.exactDecimal (n + 1)).find?
    (·.readsAs x) with
  | some d =>
    have reads := List.find?_some found
    exact reads
  | none => rw [Option.getD_none, readsAs_iff, value_exactDecimal, nearest_value]

theorem shortest_digits_ne_zero {x : Binary64} (nonzero : x.isZero = false) :
    x.shortest.digits ≠ 0 := by
  intro zero
  have reads := readsAs_iff.mp x.shortest_readsAs
  rw [Decimal.value, zero, Nat.cast_zero, zero_mul, nearest, if_pos rfl] at reads
  simp [isZero, ← reads] at nonzero

end DocumentMigration.Binary64
