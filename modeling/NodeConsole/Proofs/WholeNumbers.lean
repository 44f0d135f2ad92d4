import Mathlib.Tactic.IntervalCases
import Mathlib.Tactic.Ring
import NodeConsole.Number.Shortest
import NodeConsole.Proofs.Document
import NodeConsole.Proofs.Rounding

/-!
The text of a whole number below 2^53. Around such a number lie no other whole numbers, so that the
shortest digits are its own, and the text is a numeral that denotes it.
-/

namespace NodeConsole

section Decimals

theorem digitsValue_snoc (base : Nat) (digits : List Char) (digit : Char) :
    digitsValue base (digits ++ [digit]) =
      digitsValue base digits * base + (digitValue? base digit).getD 0 :=
  List.foldl_concat ..

theorem digitValue?_digitChar {digit : Nat} (small : digit < 10) :
    digitValue? 10 digit.digitChar = some digit := by
  interval_cases digit <;> rfl

theorem digitsValue_toDigits (count : Nat) : digitsValue 10 (Nat.toDigits 10 count) = count := by
  induction count using Nat.strongRecOn with
  | ind count ih =>
      by_cases small : count < 10
      · rw [Nat.toDigits_of_lt_base small]
        have value := digitsValue_snoc 10 [] count.digitChar
        rw [digitValue?_digitChar small] at value
        simpa [digitsValue] using value
      · rw [Nat.toDigits_of_base_le (by decide) (by omega), digitsValue_snoc, ih _ (by omega),
          digitValue?_digitChar (by omega), Option.getD_some]
        omega

theorem digitsValue_zeros (digits : List Char) (zeros : Nat) :
    digitsValue 10 (digits ++ List.replicate zeros '0') = digitsValue 10 digits * 10 ^ zeros := by
  induction zeros with
  | zero => simp
  | succ zeros ih =>
      rw [List.replicate_succ', ← List.append_assoc, digitsValue_snoc, ih, Nat.pow_succ,
        ← Nat.mul_assoc]
      rfl

theorem toDigits_isDigit {count : Nat} : ∀ digit ∈ Nat.toDigits 10 count, isDigit digit = true := by
  intro digit listed
  have known : digit.isDigit = true := Nat.isDigit_of_mem_toDigits (by decide) (by decide) listed
  simpa [isDigit, Char.isDigit, Char.le_def] using known

theorem toDigits_head {count : Nat} (nonzero : count ≠ 0) :
    (Nat.toDigits 10 count).head? ≠ some '0' := by
  induction count using Nat.strongRecOn with
  | ind count ih =>
      by_cases small : count < 10
      · rw [Nat.toDigits_of_lt_base small]
        have positive : 0 < count := Nat.pos_of_ne_zero nonzero
        interval_cases count <;> decide
      · rw [Nat.toDigits_of_base_le (by decide) (by omega), List.head?_append]
        have front := ih (count / 10) (by omega) (by omega)
        cases first : (Nat.toDigits 10 (count / 10)).head? with
        | none => exact (Nat.toDigits_ne_nil (List.head?_eq_none_iff.mp first)).elim
        | some digit => rwa [first] at front

end Decimals

namespace Shortest

theorem value_natural {digits : Digits} {power : Nat} (place : digits.place = power) :
    digits.value = ((digits.count * 10 ^ power : Nat) : Rat) := by
  rw [Digits.value, scale_eq, place, zpow_natCast]
  push_cast
  rfl

theorem trimmed_value (fuel : Nat) (digits : Digits) :
    (digits.trimmed fuel).value = digits.value ∧ digits.place ≤ (digits.trimmed fuel).place := by
  induction fuel generalizing digits with
  | zero => exact ⟨rfl, Int.le_refl _⟩
  | succ fuel ih =>
      rw [Digits.trimmed]
      split
      next shrinks =>
        obtain ⟨same, above⟩ := ih { count := digits.count / 10, place := digits.place + 1 }
        refine ⟨same.trans ?_, by simp only at above; omega⟩
        have whole : digits.count = digits.count / 10 * 10 := by omega
        rw [Digits.value, Digits.value, scale_eq, scale_eq, zpow_add_one₀ (by norm_num)]
        conv_rhs => rw [whole]
        push_cast
        ring
      next => exact ⟨rfl, Int.le_refl _⟩

theorem bounds_of_contains {around : Neighbourhood} {value : Rat}
    (near : around.contains value = true) : around.low ≤ value ∧ value ≤ around.high := by
  rw [Neighbourhood.contains] at near
  split at near
  · simpa using near
  · have strict : around.low < value ∧ value < around.high := by simpa using near
    exact ⟨strict.1.le, strict.2.le⟩

theorem contains_of_bounds {around : Neighbourhood} {value : Rat} (above : around.low < value)
    (below : value < around.high) : around.contains value = true := by
  rw [Neighbourhood.contains]
  split
  · simp [above.le, below.le]
  · simp [above, below]

theorem onGrid?_eq_some {value : Rat} {around : Neighbourhood} {digitCount : Nat} {digits : Digits}
    (found : onGrid? value around digitCount = some digits) :
    digits.place = leadingPlace value + 1 - digitCount ∧
      around.contains digits.value = true := by
  simp only [onGrid?] at found
  split at found
  next below above =>
    cases found
    rw [nearer]
    split
    · exact ⟨rfl, below⟩
    split
    · exact ⟨rfl, above⟩
    split
    · exact ⟨rfl, below⟩
    · exact ⟨rfl, above⟩
  next below _ =>
    cases found
    exact ⟨rfl, below⟩
  next _ above =>
    cases found
    exact ⟨rfl, above⟩
  next => cases found

theorem floor_natCast (count : Nat) : (count : Rat).floor.toNat = count := by
  rw [← Int.cast_natCast, Rat.floor_intCast, Int.toNat_natCast]

theorem leadingPlace_natural {count : Nat} (nonzero : count ≠ 0) :
    ∃ places : Nat, leadingPlace count = places := by
  have whole : (1 : Rat) ≤ count := by exact_mod_cast Nat.one_le_iff_ne_zero.mpr nonzero
  refine ⟨(toString count).length - 1, ?_⟩
  have some : 0 < (toString count).length := Nat.length_repr_pos
  rw [leadingPlace, if_pos whole, floor_natCast]
  omega

theorem findSome?_range {α : Type} {find : Nat → Option α} {bound : Nat} {found : α}
    (first : (List.range bound).findSome? find = some found) :
    ∃ place, find place = some found ∧ ∀ earlier < place, find earlier = none := by
  obtain ⟨before, place, after, split, hit, missed⟩ := List.findSome?_eq_some_iff.mp first
  have stands : (List.range bound)[before.length]? = some place := by simp [split]
  obtain ⟨within, same⟩ := List.getElem?_eq_some_iff.mp stands
  rw [List.getElem_range] at same
  rw [List.length_range] at within
  subst same
  refine ⟨_, hit, ?_⟩
  intro earlier below
  have among : before[earlier]? = some earlier := by
    rw [← List.getElem?_append_left below, ← split, List.getElem?_range (below.trans within)]
  exact missed earlier (List.mem_of_getElem? among)

section Whole

variable {count : Nat} (nonzero : count ≠ 0) (small : count < 2 ^ 53)

include nonzero small

theorem lastPlace_natCast :
    (Binary64.significand count : Rat) * 2 ^ Binary64.lastPlace count = count ∧
      (2 : Rat) ^ Binary64.lastPlace count ≤ 1 := by
  have nonzero : (count : Int) ≠ 0 := by exact_mod_cast nonzero
  obtain ⟨units, grid⟩ := Binary64.grid_intCast nonzero small
  have place := Binary64.lastPlace_nonpos nonzero small
  rw [Int.cast_natCast] at grid place
  constructor
  · rw [Binary64.significand_exact grid, ← grid, Nat.abs_cast]
  · exact zpow_le_one_of_nonpos₀ (by norm_num) place

theorem neighbourhood_bounds : ∃ below : Rat, 0 < below ∧ below ≤ 1 / 2 ∧
    (neighbourhood count).low = count - below * 2 ^ Binary64.lastPlace count ∧
    (neighbourhood count).high = count + 1 / 2 * 2 ^ Binary64.lastPlace count := by
  obtain ⟨grid, _⟩ := lastPlace_natCast nonzero small
  refine ⟨if Binary64.significand count = Nat.pow 2 52 ∧ -1074 < Binary64.lastPlace count then 1 / 4
    else 1 / 2, ?_, ?_, ?_, ?_⟩
  · split <;> norm_num
  · split <;> norm_num
  · rw [neighbourhood, scale_eq, sub_mul]
    exact congrArg (· - _) grid
  · rw [neighbourhood, scale_eq, add_mul]
    exact congrArg (· + _) grid

/-- The numbers that round to a whole number are nearer to it than half a unit. -/
theorem near_of_contains {value : Rat} (near : (neighbourhood count).contains value = true) :
    |value - count| ≤ 1 / 2 := by
  obtain ⟨below, positive, half, low, high⟩ := neighbourhood_bounds nonzero small
  have unit := (lastPlace_natCast nonzero small).2
  have step : below * 2 ^ Binary64.lastPlace count ≤ 1 / 2 :=
    (mul_le_of_le_one_right positive.le unit).trans half
  obtain ⟨above, under⟩ := bounds_of_contains near
  rw [low] at above
  rw [high] at under
  rw [abs_le]
  constructor
  · linarith
  · linarith

theorem contains_self : (neighbourhood count).contains count = true := by
  obtain ⟨below, positive, half, low, high⟩ := neighbourhood_bounds nonzero small
  have unit : (0 : Rat) < 2 ^ Binary64.lastPlace count := by positivity
  have step := mul_pos positive unit
  apply contains_of_bounds
  · rw [low]
    linarith
  · rw [high]
    linarith

/-- The digits that a coarse grid has near a whole number are digits of that number. -/
theorem value_of_coarse {digits : Digits} (coarse : 0 ≤ digits.place)
    (near : (neighbourhood count).contains digits.value = true) : digits.value = count := by
  obtain ⟨power, place⟩ := Int.eq_ofNat_of_zero_le coarse
  have close := near_of_contains nonzero small near
  rw [value_natural place] at close ⊢
  have apart : |((digits.count * 10 ^ power : Nat) : Int) - count| < 1 := by
    have cast : |(((digits.count * 10 ^ power : Nat) : Int) - count : Rat)| < 1 := by
      push_cast at close ⊢
      linarith
    exact_mod_cast cast
  have same : ((digits.count * 10 ^ power : Nat) : Int) - count = 0 := Int.abs_lt_one_iff.mp apart
  have same : digits.count * 10 ^ power = count := by omega
  exact_mod_cast congrArg (Nat.cast : Nat → Rat) same

theorem onGrid?_units {digitCount : Nat} (units : leadingPlace count + 1 - digitCount = 0) :
    onGrid? count (neighbourhood count) digitCount ≠ none := by
  have own : (Digits.mk ((count : Rat) / scale 10 0).floor.toNat 0).value = count := by
    rw [scale_eq, zpow_zero, div_one, floor_natCast]
    simp [Digits.value, scale_eq]
  simp only [onGrid?, units, own, contains_self nonzero small]
  split
  · nofun
  · nofun
  next refused _ => cases refused
  next refused _ => cases refused

/-- The grid of whole numbers is reached before the finer ones. -/
theorem findSome?_natCast {found : Digits} (first : ((List.range 17).findSome? fun fewer =>
    onGrid? count (neighbourhood count) (fewer + 1)) = some found) :
    found.value = count ∧ 0 ≤ found.place := by
  obtain ⟨places, leading⟩ := leadingPlace_natural nonzero
  obtain ⟨fewer, hit, missed⟩ := findSome?_range first
  obtain ⟨place, near⟩ := onGrid?_eq_some hit
  have coarse : 0 ≤ found.place := by
    by_contra fine
    exact onGrid?_units nonzero small (by omega) (missed places (by omega))
  exact ⟨value_of_coarse nonzero small coarse near, coarse⟩

theorem digits_natCast : (digits count).value = count ∧ 0 ≤ (digits count).place := by
  have untrimmed : ∀ found : Option Digits, ((List.range 17).findSome? fun fewer =>
      onGrid? count (neighbourhood count) (fewer + 1)) = found →
      (found.getD ⟨(count : Rat).floor.toNat, 0⟩).value = count ∧
        0 ≤ (found.getD ⟨(count : Rat).floor.toNat, 0⟩).place := by
    intro found first
    cases found with
    | some found => exact findSome?_natCast nonzero small first
    | none =>
        rw [Option.getD_none, floor_natCast]
        exact ⟨by simp [Digits.value, scale_eq], Int.le_refl 0⟩
  obtain ⟨value, place⟩ := untrimmed _ rfl
  obtain ⟨same, above⟩ := trimmed_value 400 (((List.range 17).findSome? fun fewer =>
    onGrid? count (neighbourhood count) (fewer + 1)).getD ⟨(count : Rat).floor.toNat, 0⟩)
  exact ⟨same.trans value, place.trans above⟩

end Whole

theorem layOut_whole {text : List Char} {zeros : Nat} (short : text.length + zeros ≤ 21) :
    layOut text (text.length + zeros) = text ++ List.replicate zeros '0' := by
  have fits : (text.length : Int) ≤ text.length + zeros ∧ (text.length + zeros : Int) ≤ 21 := by
    omega
  have zeros : ((text.length + zeros : Int) - text.length).toNat = zeros := by omega
  rw [layOut, if_pos fits, zeros]

/-- The digits of a number with zeros behind it are few where the whole is small. -/
theorem length_toDigits {own zeros : Nat} (nonzero : own ≠ 0) (small : own * 10 ^ zeros < 2 ^ 53) :
    (Nat.toDigits 10 own).length + zeros ≤ 21 := by
  have limit : own * 10 ^ zeros < 10 ^ 16 := small.trans (by decide)
  have few : zeros < 16 := by
    have least : 10 ^ zeros ≤ own * 10 ^ zeros :=
      Nat.le_mul_of_pos_left _ (Nat.pos_of_ne_zero nonzero)
    exact (Nat.pow_lt_pow_iff_right (by decide)).mp (least.trans_lt limit)
  have split : 10 ^ 16 = 10 ^ (16 - zeros) * 10 ^ zeros := by
    rw [← Nat.pow_add, Nat.sub_add_cancel few.le]
  rw [split] at limit
  have below : own < 10 ^ (16 - zeros) := Nat.lt_of_mul_lt_mul_right limit
  have := (Nat.length_toDigits_le_iff (by decide) (by omega)).mpr below
  omega

/-- A whole number is written in its digits, the last of them perhaps zeros that were set apart. -/
theorem unsigned_natCast {count : Nat} (nonzero : count ≠ 0) (small : count < 2 ^ 53) :
    ∃ own zeros : Nat, own ≠ 0 ∧ own * 10 ^ zeros = count ∧
      unsigned count = Nat.toDigits 10 own ++ List.replicate zeros '0' := by
  obtain ⟨value, place⟩ := digits_natCast nonzero small
  obtain ⟨zeros, place⟩ := Int.eq_ofNat_of_zero_le place
  rw [value_natural place] at value
  have value : (digits count).count * 10 ^ zeros = count := by exact_mod_cast value
  have own : (digits count).count ≠ 0 := by
    intro none
    rw [none, Nat.zero_mul] at value
    exact nonzero value.symm
  have cast : (count : Rat) ≠ 0 := by exact_mod_cast nonzero
  have text : (toString (digits count).count).toList = Nat.toDigits 10 (digits count).count :=
    Nat.toList_repr
  refine ⟨(digits count).count, zeros, own, value, ?_⟩
  rw [unsigned, if_neg cast]
  simp only [text, place]
  exact layOut_whole (length_toDigits own (by rwa [value]))

end Shortest

theorem toDigits_zeros_whole {own : Nat} (nonzero : own ≠ 0) (zeros : Nat) :
    Json.Whole (Nat.toDigits 10 own ++ List.replicate zeros '0') := by
  have head := toDigits_head nonzero
  have row : ∀ digit ∈ Nat.toDigits 10 own ++ List.replicate zeros '0', isDigit digit = true := by
    refine List.forall_mem_append.mpr ⟨toDigits_isDigit, ?_⟩
    intro digit listed
    rw [List.eq_of_mem_replicate listed]
    rfl
  cases digits : Nat.toDigits 10 own with
  | nil => exact (Nat.toDigits_ne_nil digits).elim
  | cons first rest =>
      rw [digits] at head row
      exact .digits ⟨List.cons_ne_nil _ _, row⟩ fun zero => head (congrArg some zero)

/-- The text of a whole number is a numeral for it. -/
theorem numeral_natCast {count : Nat} (small : count < 2 ^ 53) :
    ∃ decimal, Json.NumeralWritten decimal (Number.finite count).text.toList ∧
      decimal.value = count := by
  have written (chars : List Char) (same : Shortest.unsigned count = chars) :
      (Number.finite count).text.toList = chars := by
    have natural : ¬ (count : Rat) < 0 := not_lt_of_ge (Nat.cast_nonneg count)
    rw [Number.text, if_neg natural, same, String.toList_ofList]
  have value (whole : List Char) :
      Decimal.value { whole } = (digitsValue 10 whole : Rat) := by
    simp [Decimal.value, Decimal.signed, Decimal.digits, Decimal.place, scale_eq]
  by_cases zero : count = 0
  · subst zero
    rw [written ['0'] rfl]
    exact ⟨_, .positive .zero .none .none, value ['0']⟩
  · obtain ⟨own, zeros, nonzero, rfl, text⟩ := Shortest.unsigned_natCast zero small
    have numeral := Json.NumeralWritten.positive (toDigits_zeros_whole nonzero zeros) .none .none
    rw [List.append_nil, List.append_nil] at numeral
    rw [written _ text]
    refine ⟨_, numeral, ?_⟩
    rw [value, digitsValue_zeros, digitsValue_toDigits]

end NodeConsole
