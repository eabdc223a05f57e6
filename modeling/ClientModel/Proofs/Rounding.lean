/-
This file says what rounding a ratio gives. The exponent that is chosen for a positive ratio is the
only one at which it has a significand of 53 binary digits, or fewer at the least exponent. The main
statements are that rounding always gives a number of the format, and that a ratio in the interval
of a number is rounded to that number.
-/

import ClientModel.Binary64.Decimal
import ClientModel.Binary64.Shortest
import Mathlib.Algebra.Order.Field.Power
import Mathlib.Data.Rat.Cast.Order
import Mathlib.Tactic.FieldSimp
import Mathlib.Tactic.Linarith
import Mathlib.Tactic.Positivity
import Mathlib.Tactic.Ring

namespace ClientModel.Binary64

/-! ### Numbers of the format -/

/-- A number of the format: a finite one has a significand of at most 53 binary digits, and of
fewer at the least exponent alone. -/
def IsProper : Binary64 → Prop
  | .finite _ significand exponent =>
    significand < 2 ^ 53 ∧ leastExponent ≤ exponent ∧ exponent ≤ greatestExponent ∧
      (exponent = leastExponent ∨ 2 ^ 52 ≤ significand)
  | _ => True

instance : DecidablePred IsProper := fun number => by
  cases number <;> unfold IsProper <;> infer_instance

theorem isProper_zeroOf (negative : Bool) : (zeroOf negative).IsProper := by
  cases negative <;> decide

/-! ### Powers -/

/-- A power as a ratio of powers with natural exponents. -/
theorem zpow_eq_div (base : ℚ) (exponent : Int) :
    base ^ exponent = base ^ exponent.toNat / base ^ (-exponent).toNat := by
  obtain ⟨power, rfl | rfl⟩ := exponent.eq_nat_or_neg
  · simp
  · simp [zpow_neg]

/-- Dividing by a power of two scales the numerator or the denominator. -/
theorem scaled_div (numerator denominator : Nat) (exponent : Int) :
    (scaledNumerator numerator exponent : ℚ) / scaledDenominator denominator exponent =
      numerator / denominator / 2 ^ exponent := by
  have scaled (number power : Nat) :
      ((number * Nat.pow 2 power : Nat) : ℚ) = number * 2 ^ power := by
    rw [Nat.cast_mul]
    exact congrArg _ (Nat.cast_pow 2 power)
  rw [scaledNumerator, scaledDenominator, scaled, scaled, zpow_eq_div, div_div_div_eq]

theorem scaledDenominator_pos {denominator : Nat} (positive : 0 < denominator) (exponent : Int) :
    0 < scaledDenominator denominator exponent :=
  Nat.mul_pos positive (Nat.pow_pos Nat.two_pos)

theorem two_pow_le_div_iff (value : ℚ) (exponent : Int) (power : Nat) :
    2 ^ power ≤ value / 2 ^ exponent ↔ 2 ^ (exponent + power) ≤ value := by
  rw [le_div_iff₀ (zpow_pos two_pos exponent), zpow_add₀ two_ne_zero, zpow_natCast, mul_comm]

/-! ### Exponents -/

/-- The distance of two binary logarithms bounds a ratio from both sides. -/
theorem two_zpow_log2_lt {numerator denominator : Nat} (positive : 0 < numerator)
    (positive' : 0 < denominator) :
    (2 : ℚ) ^ ((numerator.log2 : Int) - (denominator.log2 : Int) - 1) < numerator / denominator ∧
      (numerator / denominator : ℚ) <
        2 ^ ((numerator.log2 : Int) - (denominator.log2 : Int) + 1) := by
  have bounds {number : Nat} (positive : 0 < number) :
      (2 : ℚ) ^ (number.log2 : Int) ≤ number ∧ (number : ℚ) < 2 ^ ((number.log2 : Int) + 1) := by
    have lower := Nat.log2_self_le (Nat.pos_iff_ne_zero.1 positive)
    have upper : number < 2 ^ (number.log2 + 1) := Nat.lt_log2_self
    exact ⟨by exact_mod_cast lower, by exact_mod_cast upper⟩
  obtain ⟨lower, upper⟩ := bounds positive
  obtain ⟨lower', upper'⟩ := bounds positive'
  have denominatorPos : (0 : ℚ) < denominator := by exact_mod_cast positive'
  constructor
  · rw [lt_div_iff₀ denominatorPos]
    calc (2 : ℚ) ^ ((numerator.log2 : Int) - (denominator.log2 : Int) - 1) * denominator
        < 2 ^ ((numerator.log2 : Int) - (denominator.log2 : Int) - 1) *
            2 ^ ((denominator.log2 : Int) + 1) := by gcongr
      _ = 2 ^ (numerator.log2 : Int) := by
        rw [← zpow_add₀ two_ne_zero]
        congr 1
        ring
      _ ≤ numerator := lower
  · rw [div_lt_iff₀ denominatorPos]
    calc (numerator : ℚ) < 2 ^ ((numerator.log2 : Int) + 1) := upper
      _ = 2 ^ ((numerator.log2 : Int) - (denominator.log2 : Int) + 1) *
            2 ^ (denominator.log2 : Int) := by
        rw [← zpow_add₀ two_ne_zero]
        congr 1
        ring
      _ ≤ 2 ^ ((numerator.log2 : Int) - (denominator.log2 : Int) + 1) * denominator := by gcongr

/-- The exponent at which a positive number has a significand of 53 binary digits before its
point, or of fewer where the exponent is the least. -/
structure Fits (value : ℚ) (exponent : Int) : Prop where
  least : leastExponent ≤ exponent
  below : value / 2 ^ exponent < 2 ^ 53
  above : exponent = leastExponent ∨ 2 ^ 52 ≤ value / 2 ^ exponent

/-- No other exponent fits. -/
theorem Fits.unique {value : ℚ} {exponent exponent' : Int} (fits : Fits value exponent)
    (fits' : Fits value exponent') : exponent = exponent' := by
  have one {exponent exponent' : Int} (fits : Fits value exponent)
      (fits' : Fits value exponent') : exponent ≤ exponent' := by
    rcases fits.above with least | above
    · exact least ▸ fits'.least
    · have lower := (two_pow_le_div_iff value exponent 52).1 above
      have upper := (two_pow_le_div_iff value exponent' 53).not.1 (not_le.2 fits'.below)
      have between := (zpow_lt_zpow_iff_right₀ one_lt_two).1 (lower.trans_lt (not_le.1 upper))
      omega
  exact le_antisymm (one fits fits') (one fits' fits)

/-- Whether the whole part of a scaled ratio has no more than 53 binary digits. -/
theorem scaled_lt_iff {numerator denominator : Nat} (positive : 0 < denominator)
    (exponent : Int) :
    scaledNumerator numerator exponent / scaledDenominator denominator exponent < Nat.pow 2 53 ↔
      (numerator / denominator : ℚ) / 2 ^ exponent < 2 ^ 53 := by
  have denominatorPos := scaledDenominator_pos positive exponent
  have cast : (0 : ℚ) < scaledDenominator denominator exponent := by exact_mod_cast denominatorPos
  rw [Nat.div_lt_iff_lt_mul denominatorPos, ← scaled_div, div_lt_iff₀ cast]
  exact_mod_cast Iff.rfl

/-- The exponent that is chosen fits. -/
theorem fits_exponentFor {numerator denominator : Nat} (positive : 0 < numerator)
    (positive' : 0 < denominator) :
    Fits (numerator / denominator) (exponentFor numerator denominator) := by
  obtain ⟨lower, upper⟩ := two_zpow_log2_lt positive positive'
  unfold exponentFor
  dsimp only
  generalize distance : (numerator.log2 : Int) - (denominator.log2 : Int) = difference at *
  generalize chosen : max leastExponent (difference - 53) = start
  have least : leastExponent ≤ start := chosen ▸ le_max_left _ _
  have close : difference - 53 ≤ start := chosen ▸ le_max_right _ _
  have power {exponent exponent' : Int} (le : exponent ≤ exponent') :
      (2 : ℚ) ^ exponent ≤ 2 ^ exponent' := zpow_le_zpow_right₀ one_le_two le
  split
  · next small =>
    refine ⟨least, (scaled_lt_iff positive' start).1 small, ?_⟩
    rcases max_choice leastExponent (difference - 53) with here | here
    · exact Or.inl (chosen ▸ here)
    · exact Or.inr ((two_pow_le_div_iff _ start 52).2 ((power (by omega)).trans lower.le))
  · next large =>
    rw [scaled_lt_iff positive', not_lt, two_pow_le_div_iff _ start 53] at large
    refine ⟨by omega, not_le.1 fun beyond => ?_, Or.inr ?_⟩
    · rw [two_pow_le_div_iff _ (start + 1) 53] at beyond
      exact absurd upper (not_lt.2 ((power (by omega)).trans beyond))
    · exact (two_pow_le_div_iff _ (start + 1) 52).2 ((power (by omega)).trans large)

/-- An exponent that fits is the one that is chosen. -/
theorem exponentFor_eq {numerator denominator : Nat} (positive : 0 < numerator)
    (positive' : 0 < denominator) {exponent : Int}
    (fits : Fits (numerator / denominator) exponent) :
    exponentFor numerator denominator = exponent :=
  (fits_exponentFor positive positive').unique fits

/-! ### Quotients -/

theorem divideToEven_eq_of_halves {numerator denominator nearest : Nat}
    (positive : 0 < denominator)
    (lower : 2 * (nearest * denominator) ≤ 2 * numerator + denominator)
    (upper : 2 * numerator ≤ 2 * (nearest * denominator) + denominator)
    (decided : nearest % 2 = 0 ∨
      2 * (nearest * denominator) < 2 * numerator + denominator ∧
        2 * numerator < 2 * (nearest * denominator) + denominator) :
    divideToEven numerator denominator = nearest := by
  have whole := Nat.div_add_mod numerator denominator
  have rest := Nat.mod_lt numerator positive
  unfold divideToEven
  dsimp only
  generalize numerator / denominator = quotient at *
  generalize numerator % denominator = remainder at *
  rw [mul_comm] at whole
  -- The rounding is the quotient or the next natural, and so is the nearest one.
  rcases Nat.lt_trichotomy nearest quotient with less | rfl | more
  · have gap := Nat.mul_le_mul_right denominator (Nat.succ_le_of_lt less)
    rw [Nat.succ_mul] at gap
    omega
  · rw [if_pos]
    simp only [Bool.or_eq_true, decide_eq_true_eq, Bool.and_eq_true, beq_iff_eq]
    omega
  · rcases Nat.lt_or_ge (quotient + 1) nearest with beyond | next
    · have gap := Nat.mul_le_mul_right denominator (Nat.succ_le_of_lt beyond)
      simp only [Nat.succ_mul] at gap
      omega
    · obtain rfl : nearest = quotient + 1 := by omega
      simp only [Nat.succ_mul] at lower upper decided
      rw [if_neg]
      simp only [Bool.or_eq_true, decide_eq_true_eq, Bool.and_eq_true, beq_iff_eq]
      omega

/-- The natural within a half of a quotient is its rounding, if it is even or no other one is as
near. -/
theorem divideToEven_eq {numerator denominator nearest : Nat} (positive : 0 < denominator)
    (lower : (nearest : ℚ) - 1 / 2 ≤ numerator / denominator)
    (upper : (numerator / denominator : ℚ) ≤ nearest + 1 / 2)
    (decided : nearest % 2 = 0 ∨ ((nearest : ℚ) - 1 / 2 < numerator / denominator ∧
      (numerator / denominator : ℚ) < nearest + 1 / 2)) :
    divideToEven numerator denominator = nearest := by
  have cast : (0 : ℚ) < denominator := by exact_mod_cast positive
  rw [le_div_iff₀ cast] at lower
  rw [div_le_iff₀ cast] at upper
  rw [lt_div_iff₀ cast, div_lt_iff₀ cast] at decided
  refine divideToEven_eq_of_halves positive ?_ ?_ (decided.imp_right fun strict => ?_)
  · have scaled : (2 * (nearest * denominator) : ℚ) ≤ 2 * numerator + denominator := by linarith
    exact_mod_cast scaled
  · have scaled : (2 * numerator : ℚ) ≤ 2 * (nearest * denominator) + denominator := by linarith
    exact_mod_cast scaled
  · obtain ⟨strictLower, strictUpper⟩ := strict
    have scaledLower : (2 * (nearest * denominator) : ℚ) < 2 * numerator + denominator := by
      linarith
    have scaledUpper : (2 * numerator : ℚ) < 2 * (nearest * denominator) + denominator := by
      linarith
    exact ⟨by exact_mod_cast scaledLower, by exact_mod_cast scaledUpper⟩

/-! ### Ratios -/

/-- Rounding a ratio gives a number of the format. -/
theorem isProper_ofRatio (negative : Bool) (numerator : Nat) {denominator : Nat}
    (positive : 0 < denominator) : (ofRatio negative numerator denominator).IsProper := by
  unfold ofRatio
  split
  · exact isProper_zeroOf negative
  · next nonzero =>
    have numeratorPos : 0 < numerator := Nat.pos_of_ne_zero (by simpa using nonzero)
    have fits := fits_exponentFor numeratorPos positive
    dsimp only
    generalize exponentFor numerator denominator = exponent at *
    have scaledPos := scaledDenominator_pos positive exponent
    have small := (scaled_lt_iff positive exponent).2 fits.below
    have large : exponent = leastExponent ∨
        2 ^ 52 ≤ scaledNumerator numerator exponent / scaledDenominator denominator exponent := by
      refine fits.above.imp_right fun above => ?_
      have cast : (0 : ℚ) < scaledDenominator denominator exponent := by exact_mod_cast scaledPos
      rw [← scaled_div, le_div_iff₀ cast] at above
      rw [Nat.le_div_iff_mul_le scaledPos]
      exact_mod_cast above
    have upper := divideToEven_le (scaledNumerator numerator exponent)
      (scaledDenominator denominator exponent)
    have lower : scaledNumerator numerator exponent / scaledDenominator denominator exponent ≤
        divideToEven (scaledNumerator numerator exponent)
          (scaledDenominator denominator exponent) := by
      unfold divideToEven
      dsimp only
      split <;> omega
    have powers : Nat.pow 2 53 = 2 ^ 53 ∧ Nat.pow 2 52 = 2 ^ 52 := ⟨rfl, rfl⟩
    have least := fits.least
    rw [powers.1] at small
    rw [powers.1, powers.2]
    generalize divideToEven _ _ = significand at *
    generalize scaledNumerator numerator exponent / _ = quotient at *
    by_cases carried : significand = 2 ^ 53
    · rw [if_pos (beq_iff_eq.2 carried), if_pos (beq_iff_eq.2 carried)]
      split
      · trivial
      · exact ⟨by omega, by omega, by omega, Or.inr le_rfl⟩
    · rw [if_neg (mt beq_iff_eq.1 carried), if_neg (mt beq_iff_eq.1 carried)]
      split
      · trivial
      · exact ⟨by omega, by omega, by omega, by omega⟩

theorem isProper_ofInt (value : Int) : (ofInt value).IsProper :=
  isProper_ofRatio _ _ Nat.one_pos

theorem isProper_ofDecimal (negative : Bool) (digits count : Nat) (power : Int) :
    (ofDecimal negative digits count power).IsProper := by
  unfold ofDecimal
  split
  · exact isProper_zeroOf negative
  · split
    · exact isProper_zeroOf negative
    · split
      · trivial
      · exact isProper_ofRatio _ _ (Nat.pow_pos (by decide))

theorem isProper_ofParts (negative : Bool) (whole fraction : List Char) (exponent : Int) :
    (ofParts negative whole fraction exponent).IsProper :=
  isProper_ofDecimal _ _ _ _

/-- A numeral that is read is a number of the format. -/
theorem isProper_of_readUnsigned? {negative : Bool} {text : List Char} {number : Binary64}
    (found : readUnsigned? negative text = some number) : number.IsProper := by
  have parts {whole fraction rest : List Char}
      (found : (if whole.isEmpty && fraction.isEmpty then none
        else (readExponent? rest).map (ofParts negative whole fraction)) = some number) :
      number.IsProper := by
    split at found
    · cases found
    · obtain ⟨exponent, _, rfl⟩ := Option.map_eq_some_iff.1 found
      exact isProper_ofParts _ _ _ _
  unfold readUnsigned? at found
  dsimp only at found
  split at found
  · cases found
    trivial
  · split at found
    · cases found
      trivial
    · split at found <;> exact parts found

theorem isProper_of_readLoose? {text : List Char} {number : Binary64}
    (found : readLoose? text = some number) : number.IsProper := by
  unfold readLoose? at found
  rcases Option.or_eq_some_iff.1 found with whole | ⟨_, joined⟩
  · exact isProper_of_readUnsigned? whole
  · split at joined
    · exact isProper_of_readUnsigned? joined
    · cases joined

/-! ### Intervals -/

/-- The rational numbers in an interval: its ends belong where it is closed. -/
def Interval.Contains (interval : Interval) (value : ℚ) : Prop :=
  ((interval.lower / interval.denominator : ℚ) ≤ value ∧
    value ≤ interval.upper / interval.denominator) ∧
  (interval.closed = true ∨
    (interval.lower / interval.denominator : ℚ) < value ∧
      value < interval.upper / interval.denominator)

/-- Ratios are tested for being in an interval without dividing. -/
theorem Interval.holds_iff (interval : Interval) {numerator denominator : Nat}
    (positive : 0 < denominator) (positive' : 0 < interval.denominator) :
    interval.holds numerator denominator = true ↔ interval.Contains (numerator / denominator) := by
  have cast : (0 : ℚ) < denominator := by exact_mod_cast positive
  have cast' : (0 : ℚ) < interval.denominator := by exact_mod_cast positive'
  rw [Interval.Contains, div_le_div_iff₀ cast' cast, div_le_div_iff₀ cast cast',
    div_lt_div_iff₀ cast' cast, div_lt_div_iff₀ cast cast']
  norm_cast
  unfold Interval.holds
  cases interval.closed
  · simp only [Bool.false_eq_true, ↓reduceIte, Bool.and_eq_true, decide_eq_true_eq, false_or]
    omega
  · simp

section

variable {significand : Nat} {exponent : Int}

/-- How far below a significand its interval begins. -/
def lowerWidth (significand : Nat) (exponent : Int) : ℚ :=
  if significand = 2 ^ 52 ∧ exponent ≠ leastExponent then 1 / 4 else 1 / 2

theorem lowerWidth_bounds (significand : Nat) (exponent : Int) :
    1 / 4 ≤ lowerWidth significand exponent ∧ lowerWidth significand exponent ≤ 1 / 2 := by
  unfold lowerWidth
  split <;> norm_num

theorem denominator_intervalOf_pos (significand : Nat) (exponent : Int) :
    0 < (intervalOf significand exponent).denominator :=
  Nat.mul_pos (by decide) (Nat.pow_pos Nat.two_pos)

/-- A number of quarters as part of the interval of a number. -/
theorem quarters_div (significand quarters : Nat) (exponent : Int) :
    ((quarters * Nat.pow 2 exponent.toNat : Nat) : ℚ) /
        (intervalOf significand exponent).denominator = quarters / 4 * 2 ^ exponent := by
  have power (power : Nat) : ((Nat.pow 2 power : Nat) : ℚ) = 2 ^ power := Nat.cast_pow 2 power
  have positive : (0 : ℚ) < 2 ^ (-exponent).toNat := by positivity
  rw [intervalOf, zpow_eq_div]
  dsimp only
  rw [Nat.cast_mul, Nat.cast_mul, power, power]
  field_simp
  ring

theorem middle_div (significand : Nat) (exponent : Int) :
    ((intervalOf significand exponent).middle : ℚ) /
        (intervalOf significand exponent).denominator = significand * 2 ^ exponent := by
  have quarters := quarters_div significand (4 * significand) exponent
  rw [show ((4 * significand : Nat) : ℚ) / 4 = significand by push_cast; ring] at quarters
  exact quarters

theorem upper_div (significand : Nat) (exponent : Int) :
    ((intervalOf significand exponent).upper : ℚ) /
        (intervalOf significand exponent).denominator =
      (significand + 1 / 2) * 2 ^ exponent := by
  have quarters := quarters_div significand (4 * significand + 2) exponent
  rw [show ((4 * significand + 2 : Nat) : ℚ) / 4 = significand + 1 / 2 by push_cast; ring]
    at quarters
  exact quarters

theorem lower_div (positive : 0 < significand) (exponent : Int) :
    ((intervalOf significand exponent).lower : ℚ) /
        (intervalOf significand exponent).denominator =
      (significand - lowerWidth significand exponent) * 2 ^ exponent := by
  have quarters := quarters_div significand (4 * significand -
    if significand == Nat.pow 2 52 && exponent != leastExponent then 1 else 2) exponent
  have narrow : (significand == Nat.pow 2 52 && exponent != leastExponent) = true ↔
      significand = 2 ^ 52 ∧ exponent ≠ leastExponent := by
    rw [Bool.and_eq_true, beq_iff_eq, bne_iff_ne]
    exact Iff.rfl
  refine Eq.trans quarters (congrArg (· * _) ?_)
  unfold lowerWidth
  by_cases here : significand = 2 ^ 52 ∧ exponent ≠ leastExponent
  · rw [if_pos (narrow.2 here), if_pos here, Nat.cast_sub (by omega)]
    push_cast
    ring
  · rw [if_neg (fun other => here (narrow.1 other)), if_neg here, Nat.cast_sub (by omega)]
    push_cast
    ring

/-- A rational number is in the interval of a number if its scaled significand is near enough. -/
theorem contains_intervalOf_iff (positive : 0 < significand) (value : ℚ) :
    (intervalOf significand exponent).Contains value ↔
      (significand - lowerWidth significand exponent ≤ value / 2 ^ exponent ∧
        value / 2 ^ exponent ≤ significand + 1 / 2) ∧
      (significand % 2 = 0 ∨
        significand - lowerWidth significand exponent < value / 2 ^ exponent ∧
          value / 2 ^ exponent < significand + 1 / 2) := by
  have power : (0 : ℚ) < 2 ^ exponent := zpow_pos two_pos exponent
  have closed : (intervalOf significand exponent).closed = true ↔ significand % 2 = 0 := beq_iff_eq
  rw [Interval.Contains, lower_div positive, upper_div, closed, le_div_iff₀ power,
    div_le_iff₀ power, lt_div_iff₀ power, div_lt_iff₀ power]

/-- A ratio is rounded at the exponent at which it has all its digits. -/
theorem ofRatio_of_fits (negative : Bool) {numerator denominator : Nat} (positive : 0 < numerator)
    (positive' : 0 < denominator) (fits : Fits (numerator / denominator) exponent)
    (rounded : divideToEven (scaledNumerator numerator exponent)
      (scaledDenominator denominator exponent) = significand)
    (small : significand < 2 ^ 53) (greatest : exponent ≤ greatestExponent) :
    ofRatio negative numerator denominator = .finite negative significand exponent := by
  have uncarried : (significand == Nat.pow 2 53) = false := beq_false_of_ne small.ne
  unfold ofRatio
  rw [if_neg (by simpa using positive.ne')]
  dsimp only
  rw [exponentFor_eq positive positive' fits, rounded, uncarried]
  simp only [Bool.false_eq_true, ↓reduceIte]
  rw [if_neg (by omega)]

/-- A ratio that is rounded up to a power of two takes the next exponent. -/
theorem ofRatio_of_carried (negative : Bool) {numerator denominator : Nat}
    (positive : 0 < numerator) (positive' : 0 < denominator)
    (fits : Fits (numerator / denominator) (exponent - 1))
    (rounded : divideToEven (scaledNumerator numerator (exponent - 1))
      (scaledDenominator denominator (exponent - 1)) = Nat.pow 2 53)
    (greatest : exponent ≤ greatestExponent) :
    ofRatio negative numerator denominator = .finite negative (2 ^ 52) exponent := by
  unfold ofRatio
  rw [if_neg (by simpa using positive.ne')]
  dsimp only
  rw [exponentFor_eq positive positive' fits, rounded]
  simp only [beq_self_eq_true, ↓reduceIte, Int.sub_add_cancel]
  rw [if_neg (by omega)]
  rfl

/-- A ratio in the interval of a number is rounded to it. -/
theorem ofRatio_of_contains {negative : Bool}
    (proper : (Binary64.finite negative significand exponent).IsProper)
    (positive : 0 < significand) {numerator denominator : Nat} (positive' : 0 < denominator)
    (inside : (intervalOf significand exponent).Contains (numerator / denominator)) :
    ofRatio negative numerator denominator = .finite negative significand exponent := by
  obtain ⟨small, least, greatest, full⟩ := proper
  obtain ⟨⟨lower, upper⟩, decided⟩ := (contains_intervalOf_iff positive _).1 inside
  obtain ⟨_, width⟩ := lowerWidth_bounds significand exponent
  have one : (1 : ℚ) ≤ significand := by exact_mod_cast positive
  have top : (significand : ℚ) + 1 ≤ 2 ^ 53 := by exact_mod_cast small
  have numeratorPos : 0 < numerator := by
    refine Nat.pos_of_ne_zero fun zero => ?_
    rw [zero, Nat.cast_zero, zero_div, zero_div] at lower
    linarith
  have below : (numerator / denominator : ℚ) / 2 ^ exponent < 2 ^ 53 := by linarith
  by_cases near : exponent = leastExponent ∨
      (2 : ℚ) ^ 52 ≤ numerator / denominator / 2 ^ exponent
  · -- The exponent is the one of the number, and so is the significand.
    refine ofRatio_of_fits negative numeratorPos positive' ⟨least, below, near⟩ ?_ small greatest
    refine divideToEven_eq (scaledDenominator_pos positive' exponent) ?_ ?_ ?_
    all_goals rw [scaled_div]
    · linarith
    · exact upper
    · exact decided.imp_right fun ⟨strictLower, strictUpper⟩ => ⟨by linarith, strictUpper⟩
  · -- Just below a power of two the exponent is one less, and the significand is carried.
    obtain ⟨notLeast, notAbove⟩ := not_or.1 near
    rw [not_le] at notAbove
    have bottom : significand = 2 ^ 52 := by
      have large : 2 ^ 52 ≤ significand := full.resolve_left notLeast
      refine le_antisymm (Nat.lt_succ_iff.1 ?_) large
      have close : (significand : ℚ) < 2 ^ 52 + 1 := by linarith
      exact_mod_cast close
    subst bottom
    have narrow : lowerWidth (2 ^ 52) exponent = 1 / 4 := if_pos ⟨rfl, notLeast⟩
    rw [narrow] at lower
    push_cast at lower
    have halved : (numerator / denominator : ℚ) / 2 ^ (exponent - 1) =
        2 * ((numerator / denominator : ℚ) / 2 ^ exponent) := by
      rw [zpow_sub_one₀ two_ne_zero]
      field_simp
    refine ofRatio_of_carried negative numeratorPos positive' ⟨by omega, ?_, Or.inr ?_⟩ ?_ greatest
    · rw [halved]
      linarith
    · rw [halved]
      linarith
    · have cast : ((Nat.pow 2 53 : Nat) : ℚ) = 2 ^ 53 := by norm_num
      refine divideToEven_eq (scaledDenominator_pos positive' _) ?_ ?_ (Or.inl rfl)
      all_goals rw [scaled_div, halved, cast]; linarith

end

end ClientModel.Binary64
