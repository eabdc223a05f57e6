/-
This file proves that the decimal by which a double is written is rounded to that double. Whatever
the search for it finds lies in the interval of the double, since the interval is what it asks for;
the search ends, since one of the two neighbours on the grid of seventeen digits always lies there.
Leaving out zeros at the end and carrying to the next power of ten change the digits and not the
value.
-/

import ClientModel.Proofs.Rounding
import Mathlib.Data.Nat.Cast.Order.Field

namespace ClientModel.Binary64

/-! ### Decimals -/

namespace Decimal

/-- The rational number that a decimal writes. -/
def value (decimal : Decimal) : ℚ := decimal.digits * 10 ^ (decimal.point - decimal.count)

/-- A decimal whose digits are as many as it says, the first one not zero. -/
structure IsNormal (decimal : Decimal) : Prop where
  nonempty : 0 < decimal.count
  least : 10 ^ (decimal.count - 1) ≤ decimal.digits
  below : decimal.digits < 10 ^ decimal.count

/-- One digit fewer and a digit of ten times the weight. -/
theorem value_drop_zero (digits count : Nat) (point : Int) (some : 0 < count) :
    (⟨digits, count - 1, point⟩ : Decimal).value =
      (⟨digits * 10, count, point⟩ : Decimal).value := by
  obtain ⟨less, rfl⟩ : ∃ less, count = less + 1 := ⟨count - 1, by omega⟩
  have power :
      (10 : ℚ) ^ (point - (less : Int)) = 10 * 10 ^ (point - ((less + 1 : Nat) : Int)) := by
    rw [← zpow_one_add₀ (by norm_num)]
    congr 1
    push_cast
    ring
  simp only [value, Nat.add_sub_cancel]
  rw [power]
  push_cast
  ring

theorem value_withoutTrailingZeros (fuel : Nat) (decimal : Decimal) :
    (withoutTrailingZeros fuel decimal).value = decimal.value := by
  induction fuel generalizing decimal with
  | zero => rfl
  | succ fuel inductionHypothesis =>
    unfold withoutTrailingZeros
    split
    · next zero =>
      simp only [Bool.and_eq_true, beq_iff_eq, decide_eq_true_eq] at zero
      rw [inductionHypothesis, value_drop_zero _ _ _ (by omega),
        Nat.div_mul_cancel (Nat.dvd_of_mod_eq_zero zero.1)]
    · rfl

theorem IsNormal.withoutTrailingZeros {decimal : Decimal} (normal : decimal.IsNormal)
    (fuel : Nat) : (withoutTrailingZeros fuel decimal).IsNormal := by
  induction fuel generalizing decimal with
  | zero => exact normal
  | succ fuel inductionHypothesis =>
    unfold Decimal.withoutTrailingZeros
    split
    · next zero =>
      simp only [Bool.and_eq_true, beq_iff_eq, decide_eq_true_eq] at zero
      obtain ⟨_, least, below⟩ := normal
      obtain ⟨less, count⟩ : ∃ less, decimal.count = less + 2 := ⟨decimal.count - 2, by omega⟩
      simp only [count, Nat.add_one_sub_one, Nat.pow_succ] at least below
      refine inductionHypothesis ⟨by simp only [count]; omega, ?_, ?_⟩
      all_goals simp only [count, Nat.add_one_sub_one, Nat.pow_succ]; omega
    · exact normal

theorem value_carried (decimal : Decimal) (some : 0 < decimal.count) :
    decimal.carried.value = decimal.value := by
  unfold carried
  split
  · next full =>
    obtain ⟨digits, count, point⟩ := decimal
    obtain ⟨less, rfl⟩ : ∃ less, count = less + 1 := ⟨count - 1, by simp only at some; omega⟩
    obtain rfl : digits = 10 ^ less * 10 := by simpa [Nat.pow_succ] using full
    have power : (10 : ℚ) ^ (point + 1 - ((less + 1 : Nat) : Int)) =
        10 * 10 ^ (point - ((less + 1 : Nat) : Int)) := by
      rw [← zpow_one_add₀ (by norm_num)]
      congr 1
      ring
    simp only [value, Nat.mul_div_cancel _ (show 0 < 10 by decide)]
    rw [power]
    push_cast
    ring
  · rfl

theorem isNormal_carried {decimal : Decimal} (some : 0 < decimal.count)
    (least : 10 ^ (decimal.count - 1) ≤ decimal.digits)
    (below : decimal.digits ≤ 10 ^ decimal.count) : decimal.carried.IsNormal := by
  unfold carried
  split
  · next full =>
    have whole : decimal.digits = 10 ^ decimal.count := beq_iff_eq.1 full
    obtain ⟨less, count⟩ : ∃ less, decimal.count = less + 1 := ⟨decimal.count - 1, by omega⟩
    have positive : 0 < 10 ^ less := Nat.pow_pos (by decide)
    simp only [count, Nat.pow_succ] at whole
    refine ⟨some, ?_, ?_⟩
    all_goals simp only [count, whole, Nat.pow_succ, Nat.add_one_sub_one]; omega
  · next short =>
    have other : decimal.digits ≠ 10 ^ decimal.count := mt beq_iff_eq.2 short
    exact ⟨some, least, by omega⟩

/-- A decimal lies between two powers of ten. -/
theorem IsNormal.value_bounds {decimal : Decimal} (normal : decimal.IsNormal) :
    (10 : ℚ) ^ (decimal.point - 1) ≤ decimal.value ∧ decimal.value < 10 ^ decimal.point := by
  obtain ⟨some, least, below⟩ := normal
  have unit : (0 : ℚ) < 10 ^ (decimal.point - decimal.count) := zpow_pos (by norm_num) _
  have power (more : Nat) (exponent : Int)
      (sum : exponent = more + (decimal.point - decimal.count)) :
      (10 : ℚ) ^ exponent = (10 ^ more : Nat) * 10 ^ (decimal.point - decimal.count) := by
    rw [sum, zpow_add₀ (by norm_num), zpow_natCast]
    push_cast
    rfl
  have leastCast : ((10 ^ (decimal.count - 1) : Nat) : ℚ) ≤ decimal.digits := by
    exact_mod_cast least
  have belowCast : (decimal.digits : ℚ) < (10 ^ decimal.count : Nat) := by exact_mod_cast below
  rw [power (decimal.count - 1) (decimal.point - 1) (by omega),
    power decimal.count decimal.point (by omega), value]
  exact ⟨mul_le_mul_of_nonneg_right leastCast unit.le, mul_lt_mul_of_pos_right belowCast unit⟩

end Decimal

/-! ### The point -/

/-- The guess of a power of ten for a power of two. -/
def pointGuess (power : Int) : Int := (power * 30103).fdiv 100000

/-- Whether a power is at most another one, compared without dividing. -/
def powerLe (base : Nat) (exponent : Int) (base' : Nat) (exponent' : Int) : Bool :=
  Nat.pow base exponent.toNat * Nat.pow base' (-exponent').toNat ≤
    Nat.pow base' exponent'.toNat * Nat.pow base (-exponent).toNat

theorem zpow_le_zpow_of_powerLe {base base' : Nat} (positive : 0 < base) (positive' : 0 < base')
    {exponent exponent' : Int} (le : powerLe base exponent base' exponent' = true) :
    (base : ℚ) ^ exponent ≤ (base' : ℚ) ^ exponent' := by
  have cast : (0 : ℚ) < base := by exact_mod_cast positive
  have cast' : (0 : ℚ) < base' := by exact_mod_cast positive'
  have natural : base ^ exponent.toNat * base' ^ (-exponent').toNat ≤
      base' ^ exponent'.toNat * base ^ (-exponent).toNat := of_decide_eq_true le
  rw [zpow_eq_div (base : ℚ), zpow_eq_div (base' : ℚ),
    div_le_div_iff₀ (pow_pos cast _) (pow_pos cast' _)]
  exact_mod_cast natural

/-- Whether the guess for a power is at most two off. -/
def guessIsClose (power : Int) : Bool :=
  powerLe 10 (pointGuess power - 2) 2 (power - 1) && powerLe 2 (power + 1) 10 (pointGuess power + 2)

/-- The guess is at most two off, for the powers that doubles have. -/
theorem pointGuess_close (power : Int) (least : -1076 ≤ power) (greatest : power ≤ 1026) :
    (10 : ℚ) ^ (pointGuess power - 2) ≤ 2 ^ (power - 1) ∧
      (2 : ℚ) ^ (power + 1) ≤ 10 ^ (pointGuess power + 2) := by
  have all : ((List.range 2103).all fun index => guessIsClose ((index : Int) - 1076)) = true := by
    decide +kernel
  have close := List.all_eq_true.1 all (power + 1076).toNat (List.mem_range.2 (by omega))
  have same : ((power + 1076).toNat : Int) - 1076 = power := by omega
  rw [same, guessIsClose, Bool.and_eq_true] at close
  have below := zpow_le_zpow_of_powerLe (by decide) (by decide) close.1
  have above := zpow_le_zpow_of_powerLe (by decide) (by decide) close.2
  exact ⟨by exact_mod_cast below, by exact_mod_cast above⟩

/-- The point of a ratio of the size of a double is the least power of ten above it. -/
theorem pointOf_bounds {numerator denominator : Nat} (positive : 0 < numerator)
    (positive' : 0 < denominator) (least : (2 : ℚ) ^ (-1075 : Int) ≤ numerator / denominator)
    (greatest : (numerator / denominator : ℚ) ≤ 2 ^ (1025 : Int)) :
    (10 : ℚ) ^ (pointOf numerator denominator - 1) ≤ numerator / denominator ∧
      (numerator / denominator : ℚ) < 10 ^ pointOf numerator denominator := by
  obtain ⟨lower, upper⟩ := two_zpow_log2_lt positive positive'
  have cast' : (0 : ℚ) < denominator := by exact_mod_cast positive'
  have below (power : Int) :
      decide (numerator * Nat.pow 10 (-power).toNat < denominator * Nat.pow 10 power.toNat) = true ↔
        (numerator / denominator : ℚ) < 10 ^ power := by
    have natural (power : Nat) : ((Nat.pow 10 power : Nat) : ℚ) = 10 ^ power :=
      Nat.cast_pow 10 power
    rw [decide_eq_true_iff, zpow_eq_div, div_lt_div_iff₀ cast' (by positivity), mul_comm (_ ^ _),
      ← natural, ← natural]
    exact_mod_cast Iff.rfl
  have above := (below · |>.not.trans not_lt |>.1)
  unfold pointOf
  dsimp only
  generalize difference : (numerator.log2 : Int) - (denominator.log2 : Int) = power at *
  have powerLeast := (zpow_lt_zpow_iff_right₀ (one_lt_two (α := ℚ))).1 (least.trans_lt upper)
  have powerGreatest := (zpow_lt_zpow_iff_right₀ (one_lt_two (α := ℚ))).1 (lower.trans_le greatest)
  obtain ⟨closeBelow, closeAbove⟩ := pointGuess_close power (by omega) (by omega)
  rw [show (power * 30103).fdiv 100000 = pointGuess power from rfl]
  generalize pointGuess power = guess at *
  split
  · next here =>
    exact ⟨by rw [sub_sub]; exact closeBelow.trans lower.le, (below _).1 here⟩
  · next first =>
    split
    · next here => exact ⟨above _ first, (below _).1 here⟩
    · next second =>
      split
      · next here => exact ⟨by rw [add_sub_cancel_right]; exact above _ second, (below _).1 here⟩
      · next third =>
        refine ⟨?_, upper.trans_le closeAbove⟩
        rw [show guess + 2 - 1 = guess + 1 by ring]
        exact above _ third

/-! ### The grid of a number of digits -/

namespace Interval

variable {interval : Interval} {point : Int} {count : Nat}

/-- The middle of an interval in units of the last digit, without its fraction. -/
def gridFloor (interval : Interval) (point : Int) (count : Nat) : Nat :=
  interval.middle * Nat.pow 10 ((count : Int) - point).toNat /
    (interval.denominator * Nat.pow 10 (-((count : Int) - point)).toNat)

/-- The middle of an interval in units of the last digit. -/
def gridMiddle (interval : Interval) (point : Int) (count : Nat) : ℚ :=
  interval.middle / interval.denominator / 10 ^ (point - count)

theorem cast_ten_pow (power : Nat) : ((Nat.pow 10 power : Nat) : ℚ) = 10 ^ power :=
  Nat.cast_pow 10 power

/-- A decimal of the grid is tested as its value. -/
theorem holds_grid_iff (positive : 0 < interval.denominator) (digits : Nat) :
    interval.holds (digits * Nat.pow 10 (-((count : Int) - point)).toNat)
        (Nat.pow 10 ((count : Int) - point).toNat) = true ↔
      interval.Contains (⟨digits, count, point⟩ : Decimal).value := by
  have value : (⟨digits, count, point⟩ : Decimal).value =
      ((digits * Nat.pow 10 (-((count : Int) - point)).toNat : Nat) : ℚ) /
        (Nat.pow 10 ((count : Int) - point).toNat : Nat) := by
    rw [Decimal.value, zpow_eq_div, Nat.cast_mul, cast_ten_pow, cast_ten_pow, mul_div_assoc]
    simp only [neg_sub]
  have unitPos : 0 < Nat.pow 10 ((count : Int) - point).toNat := Nat.pow_pos (by decide)
  rw [holds_iff interval unitPos positive, value]

/-- The unit below the middle and the one above are its neighbours. -/
theorem gridFloor_bounds (point : Int) (count : Nat) (positive : 0 < interval.denominator) :
    (interval.gridFloor point count : ℚ) ≤ interval.gridMiddle point count ∧
      interval.gridMiddle point count < interval.gridFloor point count + 1 := by
  have denominatorPos : 0 < interval.denominator * Nat.pow 10 (-((count : Int) - point)).toNat :=
    Nat.mul_pos positive (Nat.pow_pos (by decide))
  have cast :
      (0 : ℚ) < (interval.denominator * Nat.pow 10 (-((count : Int) - point)).toNat : Nat) := by
    exact_mod_cast denominatorPos
  have middle : interval.gridMiddle point count =
      ((interval.middle * Nat.pow 10 ((count : Int) - point).toNat : Nat) : ℚ) /
        (interval.denominator * Nat.pow 10 (-((count : Int) - point)).toNat : Nat) := by
    rw [gridMiddle, zpow_eq_div, div_div_div_eq, Nat.cast_mul, Nat.cast_mul, cast_ten_pow,
      cast_ten_pow]
    simp only [neg_sub]
  rw [middle, gridFloor]
  refine ⟨Nat.cast_div_le, ?_⟩
  rw [div_lt_iff₀ cast]
  have above := Nat.lt_mul_div_succ
    (interval.middle * Nat.pow 10 ((count : Int) - point).toNat) denominatorPos
  rw [mul_comm (_ + 1)]
  exact_mod_cast above

section

variable (positive : 0 < interval.denominator) (some : 0 < count)
  (above : (10 : ℚ) ^ (point - 1) ≤ interval.middle / interval.denominator)
  (below : (interval.middle / interval.denominator : ℚ) < 10 ^ point)

include positive some above below

/-- The middle has as many digits before the point of the grid as the grid has. -/
theorem gridFloor_digits :
    10 ^ (count - 1) ≤ interval.gridFloor point count ∧
      interval.gridFloor point count < 10 ^ count := by
  obtain ⟨lower, upper⟩ := gridFloor_bounds point count positive
  have unit : (0 : ℚ) < 10 ^ (point - count) := zpow_pos (by norm_num) _
  have power (more : Nat) :
      (10 : ℚ) ^ (more + (point - count)) = 10 ^ more * 10 ^ (point - count) := by
    rw [zpow_add₀ (by norm_num), zpow_natCast]
  have least : ((10 ^ (count - 1) : Nat) : ℚ) < interval.gridFloor point count + 1 := by
    refine lt_of_le_of_lt ?_ upper
    rw [gridMiddle, le_div_iff₀ unit, Nat.cast_pow, Nat.cast_ofNat, ← power,
      show ((count - 1 : Nat) : Int) + (point - count) = point - 1 by omega]
    exact above
  have greatest : (interval.gridFloor point count : ℚ) < (10 ^ count : Nat) := by
    refine lt_of_le_of_lt lower ?_
    rw [gridMiddle, div_lt_iff₀ unit, Nat.cast_pow, Nat.cast_ofNat, ← power,
      show (count : Int) + (point - count) = point by omega]
    exact below
  exact ⟨Nat.lt_succ_iff.1 (by exact_mod_cast least), by exact_mod_cast greatest⟩

/-- A decimal that is found has the digits it says and lies in the interval. -/
theorem contains_of_decimalOf? {decimal : Decimal}
    (found : interval.decimalOf? point count = .some decimal) :
    decimal.IsNormal ∧ interval.Contains decimal.value := by
  obtain ⟨least, greatest⟩ := gridFloor_digits positive some above below
  unfold decimalOf? at found
  dsimp only at found
  rw [show interval.middle * Nat.pow 10 ((count : Int) - point).toNat /
    (interval.denominator * Nat.pow 10 (-((count : Int) - point)).toNat) =
      interval.gridFloor point count from rfl] at found
  split at found
  · next low =>
    cases found
    rw [Bool.and_eq_true, holds_grid_iff positive] at low
    exact ⟨⟨some, least, greatest⟩, low.1⟩
  · split at found
    · next high =>
      cases found
      rw [holds_grid_iff positive] at high
      refine ⟨Decimal.isNormal_carried some ?_ greatest, ?_⟩
      · exact least.trans (Nat.le_succ _)
      · rw [Decimal.value_carried _ some]
        exact high
    · cases found

end

/-- Where one of the neighbours lies in the interval, a decimal is found. -/
theorem isSome_decimalOf? (positive : 0 < interval.denominator)
    (near : interval.Contains (⟨interval.gridFloor point count, count, point⟩ : Decimal).value ∨
      interval.Contains (⟨interval.gridFloor point count + 1, count, point⟩ : Decimal).value) :
    (interval.decimalOf? point count).isSome = true := by
  rw [← holds_grid_iff positive, ← holds_grid_iff positive] at near
  unfold decimalOf?
  dsimp only
  rw [show interval.middle * Nat.pow 10 ((count : Int) - point).toNat /
    (interval.denominator * Nat.pow 10 (-((count : Int) - point)).toNat) =
      interval.gridFloor point count from rfl]
  rcases near with low | high
  · rw [low]
    split
    · rfl
    · next other =>
      rw [Bool.true_and, Bool.or_eq_true, not_or, Bool.not_eq_true', Bool.not_eq_false] at other
      rw [if_pos other.2]
      rfl
  · rw [high]
    split <;> rfl

end Interval

/-! ### The search -/

section

variable {negative : Bool} {significand : Nat} {exponent : Int}
  (proper : (Binary64.finite negative significand exponent).IsProper) (positive : 0 < significand)

include proper positive

/-- A double is at least half the least one, and below the power of two above the greatest. -/
theorem magnitude_bounds :
    (2 : ℚ) ^ (-1074 : Int) ≤ significand * 2 ^ exponent ∧
      (significand * 2 ^ exponent : ℚ) < 2 ^ (1024 : Int) := by
  obtain ⟨small, least, greatest, _⟩ := proper
  have power : (0 : ℚ) < 2 ^ exponent := zpow_pos two_pos exponent
  have one : (1 : ℚ) ≤ significand := by exact_mod_cast positive
  have top : (significand : ℚ) < 2 ^ 53 := by exact_mod_cast small
  constructor
  · calc (2 : ℚ) ^ (-1074 : Int) ≤ 2 ^ exponent := zpow_le_zpow_right₀ one_le_two least
      _ ≤ significand * 2 ^ exponent := le_mul_of_one_le_left power.le one
  · calc (significand * 2 ^ exponent : ℚ) < 2 ^ 53 * 2 ^ exponent :=
          mul_lt_mul_of_pos_right top power
      _ = 2 ^ (53 + exponent) := by rw [zpow_add₀ two_ne_zero]; norm_num
      _ ≤ 2 ^ (1024 : Int) := by
        refine zpow_le_zpow_right₀ one_le_two ?_
        unfold greatestExponent at greatest
        omega

/-- What is as near to a double as its seventeenth digit lies in its interval. -/
theorem contains_of_near {value : ℚ}
    (near : |value - significand * 2 ^ exponent| ≤ significand * 2 ^ exponent / (2 * 10 ^ 16)) :
    (intervalOf significand exponent).Contains value := by
  have power : (0 : ℚ) < 2 ^ exponent := zpow_pos two_pos exponent
  have top : (significand : ℚ) < 2 ^ 53 := by exact_mod_cast proper.1
  have scaled : |value / 2 ^ exponent - significand| ≤ significand / (2 * 10 ^ 16) := by
    have whole : value / 2 ^ exponent - significand =
        (value - significand * 2 ^ exponent) / 2 ^ exponent := by field_simp
    rw [whole, abs_div, abs_of_pos power, div_le_iff₀ power]
    linarith
  obtain ⟨lower, upper⟩ := abs_le.1 scaled
  have half : (significand : ℚ) / (2 * 10 ^ 16) < 1 / 2 := by
    rw [div_lt_iff₀ (by norm_num)]
    linarith
  have width : (significand : ℚ) / (2 * 10 ^ 16) < lowerWidth significand exponent := by
    unfold lowerWidth
    split
    · next narrow =>
      rw [narrow.1]
      norm_num
    · exact half
  rw [contains_intervalOf_iff positive]
  exact ⟨⟨by linarith, by linarith⟩, Or.inr ⟨by linarith, by linarith⟩⟩

/-- The point of a double stands next to its first digit. -/
theorem pointOf_intervalOf_bounds :
    let point := pointOf (intervalOf significand exponent).middle
      (intervalOf significand exponent).denominator
    (10 : ℚ) ^ (point - 1) ≤ significand * 2 ^ exponent ∧
      (significand * 2 ^ exponent : ℚ) < 10 ^ point := by
  obtain ⟨least, greatest⟩ := magnitude_bounds proper positive
  have middlePos : 0 < (intervalOf significand exponent).middle :=
    Nat.mul_pos (Nat.mul_pos (by decide) positive) (Nat.pow_pos Nat.two_pos)
  have bounds := pointOf_bounds middlePos (denominator_intervalOf_pos significand exponent)
  rw [middle_div] at bounds
  refine bounds (le_trans ?_ least) (le_trans greatest.le ?_)
  all_goals exact zpow_le_zpow_right₀ one_le_two (by decide)

/-- One of the two neighbours with seventeen digits lies in the interval. -/
theorem isSome_decimalOf?_seventeen :
    ((intervalOf significand exponent).decimalOf?
      (pointOf (intervalOf significand exponent).middle
        (intervalOf significand exponent).denominator) 17).isSome = true := by
  obtain ⟨above, _⟩ := pointOf_intervalOf_bounds proper positive
  have denominatorPos := denominator_intervalOf_pos significand exponent
  generalize pointOf _ _ = point at *
  have unit : (0 : ℚ) < 10 ^ (point - (17 : Nat)) := zpow_pos (by norm_num) _
  have middle : (significand * 2 ^ exponent : ℚ) =
      (intervalOf significand exponent).gridMiddle point 17 * 10 ^ (point - (17 : Nat)) := by
    rw [Interval.gridMiddle, middle_div, div_mul_cancel₀ _ unit.ne']
  -- A unit of the last digit is small against the number.
  have small : (10 : ℚ) ^ (point - (17 : Nat)) ≤ significand * 2 ^ exponent / 10 ^ 16 := by
    rw [le_div_iff₀ (by norm_num)]
    calc (10 : ℚ) ^ (point - (17 : Nat)) * 10 ^ 16
        = 10 ^ (point - 1) := by
          rw [← zpow_natCast, ← zpow_add₀ (by norm_num)]
          congr 1
          push_cast
          ring
      _ ≤ significand * 2 ^ exponent := above
  obtain ⟨lower, upper⟩ := Interval.gridFloor_bounds point 17 denominatorPos
  have near {digits : Nat}
      (close : |(digits : ℚ) - (intervalOf significand exponent).gridMiddle point 17| ≤ 1 / 2) :
      (intervalOf significand exponent).Contains (⟨digits, 17, point⟩ : Decimal).value := by
    refine contains_of_near proper positive ?_
    have distance : (⟨digits, 17, point⟩ : Decimal).value - significand * 2 ^ exponent =
        (digits - (intervalOf significand exponent).gridMiddle point 17) *
          10 ^ (point - (17 : Nat)) := by
      rw [middle, Decimal.value, sub_mul]
    calc |(⟨digits, 17, point⟩ : Decimal).value - significand * 2 ^ exponent|
        = |(digits : ℚ) - (intervalOf significand exponent).gridMiddle point 17| *
            10 ^ (point - (17 : Nat)) := by rw [distance, abs_mul, abs_of_pos unit]
      _ ≤ 1 / 2 * 10 ^ (point - (17 : Nat)) := mul_le_mul_of_nonneg_right close unit.le
      _ ≤ 1 / 2 * (significand * 2 ^ exponent / 10 ^ 16) :=
        mul_le_mul_of_nonneg_left small (by norm_num)
      _ = significand * 2 ^ exponent / (2 * 10 ^ 16) := by field_simp
  refine Interval.isSome_decimalOf? denominatorPos ?_
  generalize (intervalOf significand exponent).gridFloor point 17 = floor at *
  generalize (intervalOf significand exponent).gridMiddle point 17 = scaled at *
  rcases le_total scaled (floor + 1 / 2) with low | high
  · exact Or.inl (near (abs_le.2 ⟨by linarith, by linarith⟩))
  · refine Or.inr (near ?_)
    push_cast
    exact abs_le.2 ⟨by linarith, by linarith⟩

/-- The shortest decimal of a double has the digits it says and lies in the interval of the
double. -/
theorem contains_shortest :
    (shortest significand exponent).IsNormal ∧
      (intervalOf significand exponent).Contains (shortest significand exponent).value := by
  obtain ⟨above, below⟩ := pointOf_intervalOf_bounds proper positive
  have last := isSome_decimalOf?_seventeen proper positive
  unfold shortest
  dsimp only
  rw [← middle_div] at above below
  generalize pointOf _ _ = point at *
  rw [Decimal.value_withoutTrailingZeros]
  have some : ((List.range 17).findSome? fun less =>
      (intervalOf significand exponent).decimalOf? point (less + 1)).isSome = true :=
    List.findSome?_isSome_iff.2 ⟨16, by decide, last⟩
  obtain ⟨decimal, found⟩ := Option.isSome_iff_exists.1 some
  obtain ⟨less, _, here⟩ := List.exists_of_findSome?_eq_some found
  obtain ⟨normal, inside⟩ := Interval.contains_of_decimalOf?
    (denominator_intervalOf_pos significand exponent) (Nat.succ_pos less) above below here
  rw [found, Option.getD_some]
  exact ⟨normal.withoutTrailingZeros 17, inside⟩

end

end ClientModel.Binary64
