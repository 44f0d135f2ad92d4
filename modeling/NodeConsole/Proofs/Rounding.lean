import Mathlib.Algebra.Order.Field.Power
import Mathlib.Algebra.Order.Field.Rat
import Mathlib.Data.Rat.Cast.Order
import Mathlib.Tactic.FieldSimp
import Mathlib.Tactic.Linarith
import Mathlib.Tactic.NormNum
import Mathlib.Tactic.Positivity
import NodeConsole.Number.Numeral

/-!
Rounding to binary64, as far as integers and the ends of the range go. A number that is a whole
count of units of its last place is kept; whole numbers below 2^53 are such. A decimal numeral
denotes its exact value rounded, also where its size alone decides.
-/

namespace NodeConsole

theorem scale_eq (base : Nat) (exponent : Int) : scale base exponent = (base : Rat) ^ exponent := by
  rw [scale]
  split
  next natural =>
    obtain ⟨power, rfl⟩ := Int.eq_ofNat_of_zero_le natural
    simp
  next negative =>
    obtain ⟨power, rfl⟩ : ∃ power : Nat, exponent = -(power : Int) :=
      ⟨(-exponent).toNat, by omega⟩
    simp [Rat.mkRat_eq_div, zpow_neg]

namespace Binary64

theorem abs_eq (value : Rat) : value.abs = |value| := by
  rw [Rat.abs]
  split
  next positive => rw [abs_of_nonneg positive]
  next negative => rw [abs_of_neg (lt_of_not_ge negative)]

theorem abs_eq_div (value : Rat) : |value| = (value.num.natAbs : Rat) / value.den := by
  rw [Rat.abs_def, Rat.divInt_eq_div]
  simp

theorem size_bounds {count : Nat} (positive : count ≠ 0) :
    (2 : Rat) ^ (count.log2 : Int) ≤ count ∧ (count : Rat) < 2 ^ ((count.log2 : Int) + 1) := by
  constructor
  · rw [zpow_natCast]
    exact_mod_cast Nat.log2_self_le positive
  · have above : count < 2 ^ (count.log2 + 1) := Nat.lt_log2_self
    have cast : (count : Rat) < ((2 ^ (count.log2 + 1) : Nat) : Rat) := by exact_mod_cast above
    rw [← Nat.cast_succ, zpow_natCast]
    simpa using cast

/-- The power of two at or below the size of a number. -/
def leading (value : Rat) : Int :=
  let guess : Int := (value.num.natAbs.log2 : Int) - (value.den.log2 : Int)
  if scale 2 guess ≤ value.abs then guess else guess - 1

theorem lastPlace_eq (value : Rat) : lastPlace value = max (leading value - 52) (-1074) := rfl

theorem leading_bounds {value : Rat} (nonzero : value ≠ 0) :
    (2 : Rat) ^ leading value ≤ |value| ∧ |value| < 2 ^ (leading value + 1) := by
  have numerator := size_bounds (Int.natAbs_ne_zero.mpr (Rat.num_ne_zero.mpr nonzero))
  have denominator := size_bounds value.den_nz
  have positive : (0 : Rat) < value.den := by exact_mod_cast value.den_pos
  have two : (2 : Rat) ≠ 0 := by norm_num
  -- the guess is right, or one too high
  have below : (2 : Rat) ^ ((value.num.natAbs.log2 : Int) - value.den.log2 - 1) ≤ |value| := by
    rw [abs_eq_div, le_div_iff₀ positive]
    calc (2 : Rat) ^ ((value.num.natAbs.log2 : Int) - value.den.log2 - 1) * value.den
        ≤ 2 ^ ((value.num.natAbs.log2 : Int) - value.den.log2 - 1) *
          2 ^ ((value.den.log2 : Int) + 1) := by
          gcongr
          exact denominator.2.le
      _ = 2 ^ (value.num.natAbs.log2 : Int) := by
          rw [← zpow_add₀ two]
          congr 1
          omega
      _ ≤ value.num.natAbs := numerator.1
  have above : |value| < 2 ^ ((value.num.natAbs.log2 : Int) - value.den.log2 + 1) := by
    rw [abs_eq_div, div_lt_iff₀ positive]
    calc (value.num.natAbs : Rat) < 2 ^ ((value.num.natAbs.log2 : Int) + 1) := numerator.2
      _ = 2 ^ ((value.num.natAbs.log2 : Int) - value.den.log2 + 1) *
          2 ^ (value.den.log2 : Int) := by
          rw [← zpow_add₀ two]
          congr 1
          omega
      _ ≤ 2 ^ ((value.num.natAbs.log2 : Int) - value.den.log2 + 1) * value.den := by
          gcongr
          exact denominator.1
  rw [leading, scale_eq, abs_eq]
  split
  next reached => exact ⟨reached, above⟩
  next missed =>
    refine ⟨below, ?_⟩
    rw [Int.sub_add_cancel]
    exact lt_of_not_ge missed

/-- The significand is the size in units of the last place, as a quotient that is rounded. -/
theorem significand_eq (value : Rat) :
    ∃ numerator denominator : Nat, 0 < denominator ∧
      significand value = roundQuotient numerator denominator ∧
      (numerator : Rat) / denominator = |value| / 2 ^ lastPlace value := by
  have positive : (0 : Rat) < value.den := by exact_mod_cast value.den_pos
  rw [significand]
  generalize lastPlace value = place
  split
  next natural =>
    obtain ⟨power, rfl⟩ := Int.eq_ofNat_of_zero_le natural
    refine ⟨_, _, Nat.mul_pos value.den_pos (Nat.pow_pos (by decide)), rfl, ?_⟩
    rw [abs_eq_div]
    simp [div_div]
  next negative =>
    obtain ⟨power, rfl⟩ : ∃ power : Nat, place = -(power : Int) := ⟨(-place).toNat, by omega⟩
    refine ⟨_, _, value.den_pos, rfl, ?_⟩
    rw [abs_eq_div]
    simp [zpow_neg, div_mul_eq_mul_div]

theorem div_le_roundQuotient (numerator denominator : Nat) :
    numerator / denominator ≤ roundQuotient numerator denominator := by
  rw [roundQuotient]
  split
  · exact Nat.le_refl _
  split
  · exact Nat.le_succ _
  split
  · exact Nat.le_refl _
  · exact Nat.le_succ _

theorem roundQuotient_exact (count : Nat) {denominator : Nat} (positive : 0 < denominator) :
    roundQuotient (count * denominator) denominator = count := by
  rw [roundQuotient]
  simp [positive]

theorem roundQuotient_small {numerator denominator : Nat} (small : 2 * numerator < denominator) :
    roundQuotient numerator denominator = 0 := by
  have below : numerator < denominator := by omega
  rw [roundQuotient]
  simp [Nat.div_eq_of_lt below, Nat.mod_eq_of_lt below, small]

theorem significand_exact {value : Rat} {count : Nat}
    (grid : |value| = count * 2 ^ lastPlace value) : significand value = count := by
  obtain ⟨numerator, denominator, positive, same, quotient⟩ := significand_eq value
  have cast : (denominator : Rat) ≠ 0 := by exact_mod_cast positive.ne'
  rw [grid, mul_div_cancel_right₀ _ (by positivity), div_eq_iff cast] at quotient
  have whole : numerator = count * denominator := by exact_mod_cast quotient
  rw [same, whole, roundQuotient_exact count positive]

theorem scale_limit : scale 2 1024 = (2 : Rat) ^ (1024 : Int) :=
  scale_eq 2 1024

theorem round_exact {value : Rat} {count : Nat} (grid : |value| = count * 2 ^ lastPlace value)
    (small : |value| < 2 ^ (1024 : Int)) : round value = .finite value := by
  have magnitude : (count : Rat) * scale 2 (lastPlace value) = |value| := by
    rw [scale_eq, grid]
    rfl
  rw [round, significand_exact grid, magnitude, scale_limit, if_neg (not_le_of_gt small)]
  split
  next negative => rw [abs_of_neg negative, neg_neg]
  next positive => rw [abs_of_nonneg (le_of_not_gt positive)]

theorem abs_intCast (value : Int) : |(value : Rat)| = (value.natAbs : Rat) := by
  rw [← Int.cast_abs, Int.abs_eq_natAbs, Int.cast_natCast]

theorem lastPlace_nonpos {value : Int} (nonzero : value ≠ 0) (small : value.natAbs < 2 ^ 53) :
    lastPlace value ≤ 0 := by
  have cast : (value : Rat) ≠ 0 := by exact_mod_cast nonzero
  have reached := (leading_bounds cast).1
  have below : |(value : Rat)| < 2 ^ (53 : Int) := by
    rw [abs_intCast]
    exact_mod_cast small
  have order := (zpow_lt_zpow_iff_right₀ (by norm_num : (1 : Rat) < 2)).mp (reached.trans_lt below)
  rw [lastPlace_eq]
  omega

/-- Below 2^53 a whole number is a count of units of its last place. -/
theorem grid_intCast {value : Int} (nonzero : value ≠ 0) (small : value.natAbs < 2 ^ 53) :
    ∃ count : Nat, |(value : Rat)| = count * 2 ^ lastPlace value := by
  obtain ⟨power, place⟩ := Int.eq_ofNat_of_zero_le
    (show 0 ≤ -lastPlace value by have := lastPlace_nonpos nonzero small; omega)
  refine ⟨value.natAbs * 2 ^ power, ?_⟩
  rw [show lastPlace value = -(power : Int) by omega, zpow_neg, zpow_natCast, abs_intCast]
  push_cast
  field_simp

theorem round_intCast {value : Int} (small : value.natAbs < 2 ^ 53) :
    round value = .ofInt value := by
  by_cases zero : value = 0
  · subst zero
    decide +kernel
  · obtain ⟨count, grid⟩ := grid_intCast zero small
    refine round_exact grid ?_
    have below : (value.natAbs : Rat) < 2 ^ (53 : Int) := by exact_mod_cast small
    rw [abs_intCast]
    exact below.trans (zpow_lt_zpow_right₀ (by norm_num) (by norm_num))

theorem ne_zero_of_large {value bound : Rat} (positive : 0 < bound) (large : bound ≤ |value|) :
    value ≠ 0 := by
  rintro rfl
  rw [abs_zero] at large
  linarith

/-- A number that is not below the range is at least the power of two that its last place counts. -/
theorem pow_leading_le {value : Rat} (nonzero : value ≠ 0) (normal : -1022 ≤ leading value) :
    (2 : Rat) ^ leading value ≤ significand value * 2 ^ lastPlace value := by
  obtain ⟨numerator, denominator, positive, same, quotient⟩ := significand_eq value
  have cast : (0 : Rat) < denominator := by exact_mod_cast positive
  have place : leading value = 52 + lastPlace value := by
    rw [lastPlace_eq]
    omega
  have enough : (2 : Rat) ^ (52 : Int) ≤ (numerator : Rat) / denominator := by
    rw [quotient, le_div_iff₀ (by positivity), ← zpow_add₀ (by norm_num), ← place]
    exact (leading_bounds nonzero).1
  have counted : 2 ^ 52 * denominator ≤ numerator := by
    rw [le_div_iff₀ cast] at enough
    exact_mod_cast enough
  have reached : 2 ^ 52 ≤ significand value := by
    rw [same]
    exact ((Nat.le_div_iff_mul_le positive).mpr counted).trans (div_le_roundQuotient _ _)
  rw [place, zpow_add₀ (by norm_num)]
  gcongr
  exact_mod_cast reached

theorem round_infinite {value : Rat} (large : 2 ^ (1024 : Int) ≤ |value|) :
    round value = .infinite (decide (value < 0)) := by
  have nonzero : value ≠ 0 := ne_zero_of_large (by positivity) large
  have order := (zpow_lt_zpow_iff_right₀ (by norm_num : (1 : Rat) < 2)).mp
    (large.trans_lt (leading_bounds nonzero).2)
  have reached := pow_leading_le nonzero (by omega)
  have limit : (2 : Rat) ^ (1024 : Int) ≤ 2 ^ leading value :=
    zpow_le_zpow_right₀ (by norm_num) (by omega)
  rw [round, scale_limit, scale_eq 2 (lastPlace value), if_pos]
  exact limit.trans reached

theorem round_tiny {value : Rat} (tiny : |value| < 2 ^ (-1075 : Int)) :
    round value = .finite 0 := by
  by_cases zero : value = 0
  · subst zero
    decide +kernel
  · have order := (zpow_lt_zpow_iff_right₀ (by norm_num : (1 : Rat) < 2)).mp
      ((leading_bounds zero).1.trans_lt tiny)
    have place : lastPlace value = -1074 := by
      rw [lastPlace_eq]
      omega
    have none : significand value = 0 := by
      obtain ⟨numerator, denominator, positive, same, quotient⟩ := significand_eq value
      have cast : (0 : Rat) < denominator := by exact_mod_cast positive
      rw [same]
      apply roundQuotient_small
      have half : (numerator : Rat) / denominator < 2 ^ (-1 : Int) := by
        rw [quotient, place, div_lt_iff₀ (by positivity), ← zpow_add₀ (by norm_num)]
        exact tiny
      rw [div_lt_iff₀ cast, zpow_neg_one, inv_mul_eq_div, lt_div_iff₀ (by norm_num)] at half
      rw [Nat.mul_comm]
      exact_mod_cast half
    have limit : ¬ scale 2 1024 ≤ (0 : Rat) := by
      rw [scale_limit]
      exact not_le_of_gt (by positivity)
    rw [round, none, Nat.cast_zero, zero_mul, if_neg limit, neg_zero, ite_self]

end Binary64

theorem digitsValue_lt (digits : List Char) : digitsValue 10 digits < 10 ^ digits.length := by
  have each (char : Char) : (digitValue? 10 char).getD 0 < 10 := by
    cases found : digitValue? 10 char with
    | none => decide
    | some value =>
        rw [digitValue?, Option.filter_eq_some_iff] at found
        simpa using found.2
  have grows (total : Nat) :
      digits.foldl (fun total digit => total * 10 + (digitValue? 10 digit).getD 0) total <
        (total + 1) * 10 ^ digits.length := by
    induction digits generalizing total with
    | nil => simp
    | cons digit rest ih =>
        have digitBound := each digit
        rw [List.foldl_cons, List.length_cons, Nat.pow_succ', ← Nat.mul_assoc]
        refine (ih _).trans_le (Nat.mul_le_mul_right _ ?_)
        omega
  simpa [digitsValue] using grows 0

namespace Decimal

variable {decimal : Decimal}

theorem digits_lt (decimal : Decimal) : decimal.digits < 10 ^ decimal.digitCount := by
  have below := digitsValue_lt (decimal.whole ++ decimal.fraction)
  rwa [List.length_append] at below

theorem abs_value (decimal : Decimal) :
    |decimal.value| = (decimal.digits : Rat) * 10 ^ decimal.place := by
  have positive : (0 : Rat) ≤ (decimal.digits : Rat) * 10 ^ decimal.place := by positivity
  rw [value, scale_eq, signed]
  split
  · rw [abs_neg]
    exact abs_of_nonneg positive
  · exact abs_of_nonneg positive

theorem value_neg_iff (some : decimal.digits ≠ 0) :
    decimal.value < 0 ↔ decimal.negative = true := by
  have count : (0 : Rat) < decimal.digits := by exact_mod_cast Nat.pos_of_ne_zero some
  have positive : (0 : Rat) < (decimal.digits : Rat) * scale 10 decimal.place := by
    rw [scale_eq]
    positivity
  rw [value, signed]
  cases decimal.negative with
  | true => simpa using positive
  | false => simpa using positive.le

theorem two_pow_le : (2 : Rat) ^ (1200 : Int) ≤ 10 ^ (400 : Int) := by
  have eight : (2 : Rat) ^ (1200 : Int) = (2 ^ (3 : Int)) ^ (400 : Int) := by
    rw [← zpow_mul]
    rfl
  rw [eight]
  exact zpow_le_zpow_left₀ (by norm_num) (by positivity) (by norm_num)

theorem toNumber_eq (decimal : Decimal) : decimal.toNumber = Binary64.round decimal.value := by
  have size := abs_value decimal
  rw [toNumber]
  split
  next none =>
    have zero : decimal.value = 0 := by
      rw [← abs_eq_zero, size, none, Nat.cast_zero, zero_mul]
    rw [zero, Binary64.round_tiny (by rw [abs_zero]; positivity)]
  next some =>
    have one : (1 : Rat) ≤ decimal.digits := by exact_mod_cast Nat.one_le_iff_ne_zero.mpr some
    split
    next far =>
      have large : (2 : Rat) ^ (1024 : Int) ≤ |decimal.value| := by
        rw [size]
        calc (2 : Rat) ^ (1024 : Int) ≤ 2 ^ (1200 : Int) :=
              zpow_le_zpow_right₀ (by norm_num) (by norm_num)
          _ ≤ 10 ^ (400 : Int) := two_pow_le
          _ ≤ 10 ^ decimal.place := zpow_le_zpow_right₀ (by norm_num) far.le
          _ ≤ decimal.digits * 10 ^ decimal.place := le_mul_of_one_le_left (by positivity) one
      rw [Binary64.round_infinite large, Number.infinite.injEq]
      rw [Bool.eq_iff_iff, decide_eq_true_iff, value_neg_iff some]
    split
    next near =>
      have tiny : |decimal.value| < 2 ^ (-1075 : Int) := by
        have count : (decimal.digits : Rat) < 10 ^ (decimal.digitCount : Int) := by
          exact_mod_cast digits_lt decimal
        rw [size]
        calc (decimal.digits : Rat) * 10 ^ decimal.place
            < 10 ^ (decimal.digitCount : Int) * 10 ^ decimal.place := by gcongr
          _ = 10 ^ (decimal.digitCount + decimal.place) := (zpow_add₀ (by norm_num) _ _).symm
          _ ≤ 10 ^ (-400 : Int) := zpow_le_zpow_right₀ (by norm_num) (by omega)
          _ ≤ 2 ^ (-1200 : Int) := by
              rw [zpow_neg, zpow_neg]
              exact inv_anti₀ (by positivity) two_pow_le
          _ ≤ 2 ^ (-1075 : Int) := zpow_le_zpow_right₀ (by norm_num) (by norm_num)
      exact (Binary64.round_tiny tiny).symm
    next => rfl

end Decimal

end NodeConsole
