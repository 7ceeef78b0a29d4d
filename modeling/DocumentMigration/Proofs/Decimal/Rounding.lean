import DocumentMigration.Decimal.Binary64
import Mathlib.Algebra.Order.Field.Power
import Mathlib.Algebra.Order.Field.Rat
import Mathlib.Algebra.Order.Floor.Semifield
import Mathlib.Data.Int.Log
import Mathlib.Data.Rat.Floor
import Mathlib.Tactic.Linarith
import Mathlib.Tactic.NormNum
import Mathlib.Tactic.Positivity

/-! What rounding computes, over the rational numbers. The result depends on the value of a quotient
alone, the value of a float is rounded to that float, and beyond the range of the floats the result
is infinite or zero. -/
namespace DocumentMigration.Binary64

/-- The nearest natural number, a half going to the even neighbour. -/
def halfEven (v : ℚ) : Nat :=
  let low := ⌊v⌋₊
  let rest := v - low
  if rest < 1 / 2 then low
  else if 1 / 2 < rest then low + 1
  else low + low % 2

/-- The exponent of the last place of a float near a value. -/
def place (v : ℚ) : Int := max (Int.log 2 v - 52) (-1074)

/-- The magnitude nearest to a value; from `infinity` on there is no such float. -/
def nearest (v : ℚ) : Nat :=
  if v = 0 then 0 else (place v + 1074).toNat * 2 ^ 52 + halfEven (v / 2 ^ place v)

/-- The absolute value of a float. -/
def value (x : Binary64) : ℚ := x.significand * 2 ^ x.exponent

variable {num den n k : Nat} {v : ℚ}

section HalfEven

@[simp] theorem halfEven_natCast (n : Nat) : halfEven n = n := by simp [halfEven]

theorem le_halfEven (below : (n : ℚ) ≤ v) : n ≤ halfEven v := by
  have low : n ≤ ⌊v⌋₊ := Nat.le_floor below
  unfold halfEven
  dsimp only
  split
  · exact low
  · split <;> omega

theorem halfEven_eq_zero (half : v ≤ 1 / 2) : halfEven v = 0 := by
  have low : ⌊v⌋₊ = 0 := Nat.floor_eq_zero.mpr (by linarith)
  unfold halfEven
  dsimp only
  rw [low, Nat.cast_zero, sub_zero, if_neg (not_lt.mpr half), ite_self]

theorem roundDiv_eq (den_pos : 0 < den) : roundDiv num den = halfEven (num / den) := by
  have pos : (0 : ℚ) < den := by exact_mod_cast den_pos
  have rest : (num / den : ℚ) - (num / den : Nat) = (num % den : Nat) / den := by
    rw [eq_div_iff pos.ne', sub_mul, div_mul_cancel₀ _ pos.ne', sub_eq_iff_eq_add]
    exact_mod_cast (Nat.mod_add_div' num den).symm
  have less : (num % den : Nat) / (den : ℚ) < 1 / 2 ↔ 2 * (num % den) < den := by
    rw [div_lt_div_iff₀ pos two_pos, one_mul, mul_comm]
    exact_mod_cast Iff.rfl
  have more : 1 / 2 < (num % den : Nat) / (den : ℚ) ↔ den < 2 * (num % den) := by
    rw [div_lt_div_iff₀ two_pos pos, one_mul, mul_comm]
    exact_mod_cast Iff.rfl
  simp only [halfEven, roundDiv, Nat.floor_div_eq_div, rest, less, more]

end HalfEven

section Place

/-- The comparison that decides the scale. -/
theorem fits_iff (num : Nat) (den_pos : 0 < den) (guess : Int) :
    (if 0 ≤ guess then den * 2 ^ (52 + guess.toNat) ≤ num
      else den * 2 ^ 52 ≤ num * 2 ^ (-guess).toNat) ↔
      (2 : ℚ) ^ (guess + 52) ≤ num / den := by
  have pos : (0 : ℚ) < den := by exact_mod_cast den_pos
  rw [le_div_iff₀ pos, mul_comm _ (den : ℚ)]
  split
  · next nonneg =>
    obtain ⟨g, rfl⟩ := Int.eq_ofNat_of_zero_le nonneg
    rw [Int.toNat_natCast, add_comm (g : Int)]
    exact_mod_cast Iff.rfl
  · next negative =>
    obtain ⟨g, rfl⟩ : ∃ g : Nat, guess = -g := ⟨(-guess).toNat, by omega⟩
    rw [neg_neg, Int.toNat_natCast, neg_add_eq_sub, zpow_sub₀ two_ne_zero, ← mul_div_assoc,
      div_le_iff₀ (by positivity)]
    exact_mod_cast Iff.rfl

/-- The bit lengths give the logarithm of a quotient up to one. -/
theorem log_div_bounds (num_pos : 0 < num) (den_pos : 0 < den) :
    (num.log2 : Int) - den.log2 - 1 ≤ Int.log 2 ((num : ℚ) / den) ∧
      Int.log 2 ((num : ℚ) / den) ≤ (num.log2 : Int) - den.log2 := by
  have num_ge : 2 ^ num.log2 ≤ num := Nat.log2_self_le num_pos.ne'
  have num_lt : num < 2 ^ (num.log2 + 1) := Nat.lt_log2_self
  have den_ge : 2 ^ den.log2 ≤ den := Nat.log2_self_le den_pos.ne'
  have den_lt : den < 2 ^ (den.log2 + 1) := Nat.lt_log2_self
  have pos : (0 : ℚ) < num / den := by positivity
  constructor
  · rw [← Int.zpow_le_iff_le_log one_lt_two pos, le_div_iff₀ (by positivity), sub_sub, Nat.cast_two,
      zpow_sub₀ two_ne_zero, div_mul_eq_mul_div, div_le_iff₀ (by positivity)]
    exact_mod_cast Nat.mul_le_mul num_ge den_lt.le
  · rw [← Int.lt_add_one_iff, ← Int.lt_zpow_iff_log_lt one_lt_two pos, div_lt_iff₀ (by positivity),
      sub_add_eq_add_sub, Nat.cast_two, zpow_sub₀ two_ne_zero, div_mul_eq_mul_div,
      lt_div_iff₀ (by positivity)]
    exact_mod_cast Nat.mul_lt_mul_of_lt_of_le num_lt den_ge (by positivity)

theorem scale_eq (num_pos : 0 < num) (den_pos : 0 < den) : scale num den = place (num / den) := by
  have pos : (0 : ℚ) < num / den := by positivity
  obtain ⟨low, high⟩ := log_div_bounds num_pos den_pos
  have fits := fits_iff num den_pos ((num.log2 : Int) - den.log2 - 52)
  rw [← Nat.cast_two (R := ℚ), Int.zpow_le_iff_le_log one_lt_two pos, sub_add_cancel] at fits
  simp only [scale, place, fits]
  congr 1
  split <;> omega

end Place

section Nearest

theorem magnitudeOfRatio_eq (den_pos : 0 < den) :
    magnitudeOfRatio num den = nearest (num / den) := by
  have pos : (0 : ℚ) < den := by exact_mod_cast den_pos
  unfold magnitudeOfRatio nearest
  by_cases zero : num = 0
  · simp [zero]
  · have nonzero : ((num : ℚ) / den) ≠ 0 := by positivity
    rw [if_neg zero, if_neg nonzero, scale_eq (by omega) den_pos]
    dsimp only
    congr 1
    split
    · next nonneg =>
      obtain ⟨q, place⟩ := Int.eq_ofNat_of_zero_le nonneg
      rw [roundDiv_eq (by positivity), place, Int.toNat_natCast, zpow_natCast, div_div]
      push_cast
      rfl
    · next negative =>
      obtain ⟨q, place⟩ : ∃ q : Nat, place (num / den) = -q :=
        ⟨(-place (num / den)).toNat, by omega⟩
      rw [roundDiv_eq den_pos, place, neg_neg, Int.toNat_natCast, zpow_neg, zpow_natCast,
        div_inv_eq_mul, div_mul_eq_mul_div]
      push_cast
      rfl

theorem place_eq_of_bounds {q : Int} (low : 2 ^ (q + 52) ≤ v) (high : v < 2 ^ (q + 53))
    (normal : -1074 ≤ q) : place v = q := by
  have pos : 0 < v := lt_of_lt_of_le (by positivity) low
  rw [← Nat.cast_two, Int.zpow_le_iff_le_log one_lt_two pos] at low
  rw [← Nat.cast_two, Int.lt_zpow_iff_log_lt one_lt_two pos] at high
  unfold place
  omega

theorem place_eq_of_lt (pos : 0 < v) (high : v < 2 ^ (-1021 : Int)) : place v = -1074 := by
  rw [← Nat.cast_two, Int.lt_zpow_iff_log_lt one_lt_two pos] at high
  unfold place
  omega

theorem nearest_mul_zpow {q : Int} (digits : n ≠ 0) (last : place (n * 2 ^ q) = q) :
    nearest (n * 2 ^ q) = (q + 1074).toNat * 2 ^ 52 + n := by
  have nonzero : (n : ℚ) * 2 ^ q ≠ 0 := by positivity
  rw [nearest, if_neg nonzero, last, mul_div_cancel_right₀ _ (by positivity), halfEven_natCast]

/-- The value of a float is rounded to that float. -/
theorem nearest_value (x : Binary64) : nearest x.value = x.magnitude := by
  have fraction : x.magnitude % 2 ^ 52 < 2 ^ 52 := Nat.mod_lt _ (by positivity)
  have fields : 2 ^ 52 * (x.magnitude / 2 ^ 52) + x.magnitude % 2 ^ 52 = x.magnitude :=
    Nat.div_add_mod ..
  unfold value significand exponent
  by_cases subnormal : x.magnitude / 2 ^ 52 = 0
  · rw [if_pos subnormal, if_pos subnormal]
    by_cases zero : x.magnitude % 2 ^ 52 = 0
    · rw [zero, Nat.cast_zero, zero_mul, nearest, if_pos rfl]
      omega
    · rw [nearest_mul_zpow zero]
      · omega
      · refine place_eq_of_lt (by positivity) ?_
        have bits : (-1021 : Int) - -1074 = (53 : Nat) := rfl
        rw [← lt_div_iff₀ (by positivity), ← zpow_sub₀ two_ne_zero, bits, zpow_natCast]
        have wider : 2 ^ 52 < 2 ^ 53 := by decide
        exact_mod_cast fraction.trans wider
  · rw [if_neg subnormal, if_neg subnormal, nearest_mul_zpow (by omega)]
    · omega
    · refine place_eq_of_bounds ?_ ?_ (by omega)
      · rw [add_comm, zpow_add₀ two_ne_zero]
        refine mul_le_mul_of_nonneg_right ?_ (by positivity)
        exact_mod_cast Nat.le_add_right _ _
      · rw [add_comm _ (53 : Int), zpow_add₀ two_ne_zero]
        refine mul_lt_mul_of_pos_right ?_ (by positivity)
        exact_mod_cast (by omega : 2 ^ 52 + x.magnitude % 2 ^ 52 < 2 ^ 53)

theorem infinity_le_nearest (large : 2 ^ (1024 : Int) ≤ v) : infinity ≤ nearest v := by
  have pos : 0 < v := lt_of_lt_of_le (by positivity) large
  have log : 1024 ≤ Int.log 2 v := by rwa [← Int.zpow_le_iff_le_log one_lt_two pos]
  have place_eq : place v = Int.log 2 v - 52 := by
    unfold place
    omega
  -- A value has 53 bits at its last place.
  have bits : 2 ^ 52 ≤ halfEven (v / 2 ^ place v) := by
    refine le_halfEven ?_
    rw [le_div_iff₀ (by positivity), place_eq]
    have self := Int.zpow_log_le_self one_lt_two pos
    rw [Nat.cast_two] at self
    refine le_trans (le_of_eq ?_) self
    rw [Nat.cast_pow, Nat.cast_two, ← zpow_natCast, ← zpow_add₀ two_ne_zero]
    congr 1
    omega
  unfold nearest infinity
  rw [if_neg pos.ne']
  omega

theorem nearest_eq_zero (nonneg : 0 ≤ v) (small : v ≤ 2 ^ (-1075 : Int)) : nearest v = 0 := by
  unfold nearest
  split
  · rfl
  · next nonzero =>
    have pos : 0 < v := lt_of_le_of_ne nonneg (Ne.symm nonzero)
    have low : place v = -1074 :=
      place_eq_of_lt pos (lt_of_le_of_lt small (zpow_lt_zpow_right₀ one_lt_two (by decide)))
    rw [low, halfEven_eq_zero]
    · rfl
    · rw [div_le_iff₀ (by positivity)]
      have half : (1 / 2 : ℚ) = 2 ^ (-1 : Int) := by norm_num
      rwa [half, ← zpow_add₀ two_ne_zero]

end Nearest

end DocumentMigration.Binary64
