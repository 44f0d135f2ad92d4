import NodeConsole.Proofs.Rounding

/-!
How far rounding to binary64 takes a number: by half a unit of its last place at most. What comes
out below a power of two was below it before (`pow_le_round`), so the bound can be told from the
result alone (`round_error_of_lt`).
-/

namespace NodeConsole.Binary64

theorem roundQuotient_bounds (numerator : Nat) {denominator : Nat} (positive : 0 < denominator) :
    2 * numerator ≤ 2 * (roundQuotient numerator denominator * denominator) + denominator ∧
      2 * (roundQuotient numerator denominator * denominator) ≤ 2 * numerator + denominator := by
  have whole := Nat.div_add_mod' numerator denominator
  have rest := Nat.mod_lt numerator positive
  have next : (numerator / denominator + 1) * denominator =
      numerator / denominator * denominator + denominator := by
    rw [Nat.add_mul, Nat.one_mul]
  rw [roundQuotient]
  split
  · omega
  split
  · omega
  split
  · omega
  · omega

theorem roundQuotient_error (numerator : Nat) {denominator : Nat} (positive : 0 < denominator) :
    |(roundQuotient numerator denominator : Rat) - numerator / denominator| ≤ 1 / 2 := by
  obtain ⟨above, below⟩ := roundQuotient_bounds numerator positive
  have cast : (0 : Rat) < denominator := by exact_mod_cast positive
  have above : 2 * (numerator : Rat) ≤
      2 * (roundQuotient numerator denominator * denominator) + denominator := by
    exact_mod_cast above
  have below : 2 * ((roundQuotient numerator denominator : Rat) * denominator) ≤
      2 * numerator + denominator := by
    exact_mod_cast below
  have difference : (roundQuotient numerator denominator : Rat) - numerator / denominator =
      (roundQuotient numerator denominator * denominator - numerator) / denominator := by
    rw [sub_div, mul_div_cancel_right₀ _ cast.ne']
  rw [difference, abs_div, abs_of_pos cast, div_le_iff₀ cast, abs_le]
  constructor
  · linarith
  · linarith

theorem significand_error (value : Rat) :
    |(significand value : Rat) * 2 ^ lastPlace value - (|value|)| ≤ 2 ^ (lastPlace value - 1) := by
  obtain ⟨numerator, denominator, positive, same, quotient⟩ := significand_eq value
  have unit : (0 : Rat) < 2 ^ lastPlace value := by positivity
  have size : |value| = (numerator : Rat) / denominator * 2 ^ lastPlace value := by
    rw [quotient, div_mul_cancel₀ _ unit.ne']
  rw [size, same, ← sub_mul, abs_mul, abs_of_pos unit, zpow_sub_one₀ (by norm_num), mul_comm]
  have error := roundQuotient_error numerator positive
  rw [one_div] at error
  exact mul_le_mul_of_nonneg_left error unit.le

variable {value result : Rat}

theorem round_finite (rounded : round value = .finite result) :
    result = if value < 0 then -((significand value : Rat) * 2 ^ lastPlace value)
      else (significand value : Rat) * 2 ^ lastPlace value := by
  rw [round, scale_eq 2 (lastPlace value)] at rounded
  split at rounded
  · cases rounded
  split at rounded
  next negative =>
    rw [if_pos negative]
    exact (Number.finite.inj rounded).symm
  next positive =>
    rw [if_neg positive]
    exact (Number.finite.inj rounded).symm

theorem abs_round (rounded : round value = .finite result) :
    |result| = significand value * 2 ^ lastPlace value := by
  have size : (0 : Rat) ≤ significand value * 2 ^ lastPlace value := by positivity
  rw [round_finite rounded]
  split
  · rw [abs_neg, abs_of_nonneg size]
  · rw [abs_of_nonneg size]

theorem round_error (rounded : round value = .finite result) :
    |value - result| ≤ 2 ^ (lastPlace value - 1) := by
  have error := significand_error value
  rw [round_finite rounded]
  split
  next negative =>
    rw [abs_of_neg negative, sub_neg_eq_add] at error
    rwa [sub_neg_eq_add, add_comm]
  next positive =>
    rw [abs_of_nonneg (le_of_not_gt positive)] at error
    rwa [abs_sub_comm]

/-- A number that reaches a power of two is not rounded below it. -/
theorem pow_le_round {power : Int} (normal : -1022 ≤ power) (large : (2 : Rat) ^ power ≤ |value|)
    (rounded : round value = .finite result) : (2 : Rat) ^ power ≤ |result| := by
  have nonzero : value ≠ 0 := ne_zero_of_large (by positivity) large
  have order := (zpow_lt_zpow_iff_right₀ (by norm_num : (1 : Rat) < 2)).mp
    (large.trans_lt (leading_bounds nonzero).2)
  rw [abs_round rounded]
  calc (2 : Rat) ^ power ≤ 2 ^ leading value := zpow_le_zpow_right₀ (by norm_num) (by omega)
    _ ≤ significand value * 2 ^ lastPlace value := pow_leading_le nonzero (by omega)

theorem lastPlace_le {power : Int} (normal : -1021 ≤ power) (nonzero : value ≠ 0)
    (small : |value| < 2 ^ power) : lastPlace value ≤ power - 53 := by
  have order := (zpow_lt_zpow_iff_right₀ (by norm_num : (1 : Rat) < 2)).mp
    ((leading_bounds nonzero).1.trans_lt small)
  rw [lastPlace_eq]
  omega

theorem round_error_of_lt {power : Int} (normal : -1021 ≤ power)
    (rounded : round value = .finite result) (small : |result| < 2 ^ power) :
    |value - result| ≤ 2 ^ (power - 54) := by
  have below : |value| < 2 ^ power := by
    by_contra reached
    exact absurd (pow_le_round (by omega) (le_of_not_gt reached) rounded) (not_le_of_gt small)
  by_cases zero : value = 0
  · subst zero
    have kept : round 0 = .finite 0 := round_tiny (by rw [abs_zero]; positivity)
    obtain rfl : 0 = result := Number.finite.inj (kept.symm.trans rounded)
    rw [sub_zero, abs_zero]
    positivity
  · have place := lastPlace_le normal zero below
    calc |value - result| ≤ 2 ^ (lastPlace value - 1) := round_error rounded
      _ ≤ 2 ^ (power - 54) := zpow_le_zpow_right₀ (by norm_num) (by omega)

end NodeConsole.Binary64
