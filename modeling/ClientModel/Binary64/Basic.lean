/-
This file defines the double-precision numbers of a document by their values: a significand
below `2^53` times a power of two, an infinity, or not a number. Every number is made by rounding
an exact ratio of naturals to the nearest double, a tie going to the even significand, so no
operation here depends on the floating-point unit.
-/

namespace ClientModel

/-! ### The numbers -/

/-- A double-precision number. A finite one is `significand * 2^exponent`, with the significand
as large as the format allows, so that equal values other than zero have equal fields. -/
inductive Binary64 where
  | notANumber
  | infinite (negative : Bool)
  | finite (negative : Bool) (significand : Nat) (exponent : Int)
  deriving DecidableEq, Repr, Inhabited

namespace Binary64

/-- The exponent of the smallest positive double. -/
def leastExponent : Int := -1074

/-- The exponent of the largest finite double. -/
def greatestExponent : Int := 971

/-- Zero, with a sign. -/
def zeroOf (negative : Bool) : Binary64 := .finite negative 0 leastExponent

/-! ### Rounding a ratio -/

/-- The quotient to the nearest natural, a half going to the even neighbour. -/
def divideToEven (numerator denominator : Nat) : Nat :=
  let quotient := numerator / denominator
  let twice := 2 * (numerator % denominator)
  if twice < denominator || (twice == denominator && quotient % 2 == 0) then quotient
  else quotient + 1

/-- The numerator of a ratio divided by `2^exponent`. -/
def scaledNumerator (numerator : Nat) (exponent : Int) : Nat :=
  numerator * Nat.pow 2 (-exponent).toNat

/-- The denominator of a ratio divided by `2^exponent`. -/
def scaledDenominator (denominator : Nat) (exponent : Int) : Nat :=
  denominator * Nat.pow 2 exponent.toNat

/-- The exponent at which a positive ratio has a significand of 53 binary digits, or the least
exponent where it would have to be smaller than that. -/
def exponentFor (numerator denominator : Nat) : Int :=
  let start := max leastExponent ((numerator.log2 : Int) - (denominator.log2 : Int) - 53)
  if scaledNumerator numerator start / scaledDenominator denominator start < Nat.pow 2 53 then start
  else start + 1

/-- The double nearest to a ratio; a tie goes to the even significand. -/
def ofRatio (negative : Bool) (numerator denominator : Nat) : Binary64 :=
  if numerator == 0 then zeroOf negative
  else
    let exponent := exponentFor numerator denominator
    let significand :=
      divideToEven (scaledNumerator numerator exponent) (scaledDenominator denominator exponent)
    let carried := significand == Nat.pow 2 53
    let exponent := if carried then exponent + 1 else exponent
    if exponent > greatestExponent then .infinite negative
    else .finite negative (if carried then Nat.pow 2 52 else significand) exponent

/-- The double nearest to an integer. -/
def ofInt (value : Int) : Binary64 :=
  ofRatio (value < 0) value.natAbs 1

/-! ### The exact value -/

/-- The numerator of a finite magnitude. -/
def numeratorOf (significand : Nat) (exponent : Int) : Nat := significand * Nat.pow 2 exponent.toNat

/-- The denominator of a finite magnitude: a power of two. -/
def denominatorOf (exponent : Int) : Nat := Nat.pow 2 (-exponent).toNat

/-- The integer a number is equal to, if there is one. -/
def toInt? : Binary64 → Option Int
  | .finite negative significand exponent =>
    let numerator := numeratorOf significand exponent
    let denominator := denominatorOf exponent
    if numerator % denominator == 0 then
      let magnitude : Int := (numerator / denominator : Nat)
      some (if negative then -magnitude else magnitude)
    else none
  | _ => none

/-- Equality of values: the two zeros are equal, and not a number equals nothing. -/
def sameValue : Binary64 → Binary64 → Bool
  | .finite negative significand exponent, .finite negative' significand' exponent' =>
    (significand == 0 && significand' == 0) ||
      (negative == negative' && significand == significand' && exponent == exponent')
  | .infinite negative, .infinite negative' => negative == negative'
  | _, _ => false

/-- Neither a number different from zero nor "not a number": the two zeros. -/
def isZero : Binary64 → Bool
  | .finite _ significand _ => significand == 0
  | _ => false

/-! ### Sums and products -/

/-- The signed numerator of a finite number over the denominator `2^1074`. -/
def scaledUp (negative : Bool) (significand : Nat) (exponent : Int) : Int :=
  let magnitude : Int := (significand * Nat.pow 2 (exponent - leastExponent).toNat : Nat)
  if negative then -magnitude else magnitude

/-- The sum of two numbers, rounded once. -/
def add : Binary64 → Binary64 → Binary64
  | .finite negative significand exponent, .finite negative' significand' exponent' =>
    let sum := scaledUp negative significand exponent + scaledUp negative' significand' exponent'
    ofRatio (if sum == 0 then negative && negative' else sum < 0) sum.natAbs
      (Nat.pow 2 (-leastExponent).toNat)
  | .infinite negative, .infinite negative' =>
    if negative == negative' then .infinite negative else .notANumber
  | .infinite negative, .finite _ _ _ => .infinite negative
  | .finite _ _ _, .infinite negative => .infinite negative
  | _, _ => .notANumber

/-- The product of two numbers, rounded once. -/
def multiply : Binary64 → Binary64 → Binary64
  | .finite negative significand exponent, .finite negative' significand' exponent' =>
    ofRatio (negative != negative')
      (numeratorOf significand exponent * numeratorOf significand' exponent')
      (denominatorOf exponent * denominatorOf exponent')
  | .infinite negative, .finite negative' significand _ =>
    if significand == 0 then .notANumber else .infinite (negative != negative')
  | .finite negative significand _, .infinite negative' =>
    if significand == 0 then .notANumber else .infinite (negative != negative')
  | .infinite negative, .infinite negative' => .infinite (negative != negative')
  | _, _ => .notANumber

/-- The number with the other sign. -/
def negate : Binary64 → Binary64
  | .finite negative significand exponent => .finite (!negative) significand exponent
  | .infinite negative => .infinite (!negative)
  | .notANumber => .notANumber

/-! ### Small laws -/

/-- A whole quotient is its own rounding. -/
theorem divideToEven_mul (quotient denominator : Nat) (positive : 0 < denominator) :
    divideToEven (quotient * denominator) denominator = quotient := by
  simp [divideToEven, positive]

/-- The rounded quotient is the quotient or the next natural. -/
theorem divideToEven_le (numerator denominator : Nat) :
    divideToEven numerator denominator ≤ numerator / denominator + 1 := by
  unfold divideToEven
  simp only
  split <;> omega

end Binary64

end ClientModel
