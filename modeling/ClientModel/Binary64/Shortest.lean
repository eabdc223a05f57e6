/-
This file writes a double as a decimal. The digits are the fewest that read back as the same
double, and of those the ones nearest to its value; they are found by testing, for one digit, two
digits and so on, the two neighbours of the value on that decimal grid. How the digits are laid
out, positionally or with an exponent, is a record that each written format fills in.
-/

import ClientModel.Binary64.Basic

namespace ClientModel.Binary64

/-! ### Decimals -/

/-- A positive decimal `0.d₁d₂… * 10^point`: its digits as one natural, how many there are, and
where the point stands. -/
structure Decimal where
  digits : Nat
  count : Nat
  point : Int
  deriving DecidableEq, Repr

/-- The decimal without zeros at its end; the fuel is the number of digits. -/
def Decimal.withoutTrailingZeros : (fuel : Nat) → Decimal → Decimal
  | 0, decimal => decimal
  | fuel + 1, decimal =>
    if decimal.digits % 10 == 0 && 1 < decimal.count then
      withoutTrailingZeros fuel ⟨decimal.digits / 10, decimal.count - 1, decimal.point⟩
    else decimal

/-- The decimal whose digits count up to the next power of ten is written with one digit fewer
to the right of the point. -/
def Decimal.carried (decimal : Decimal) : Decimal :=
  if decimal.digits == Nat.pow 10 decimal.count then
    ⟨decimal.digits / 10, decimal.count, decimal.point + 1⟩
  else decimal

/-- The least power of ten above a positive ratio, found from a guess that is at most two off. -/
def pointOf (numerator denominator : Nat) : Int :=
  let guess : Int := (((numerator.log2 : Int) - (denominator.log2 : Int)) * 30103).fdiv 100000
  let below (power : Int) : Bool :=
    numerator * Nat.pow 10 (-power).toNat < denominator * Nat.pow 10 power.toNat
  if below (guess - 1) then guess - 1
  else if below guess then guess
  else if below (guess + 1) then guess + 1
  else guess + 2

/-! ### The shortest digits -/

/-- The reals that round to a finite double: twice the value's numerator, the distances to both
ends in the same unit, the unit's denominator, and whether the ends belong. -/
structure Interval where
  lower : Nat
  middle : Nat
  upper : Nat
  denominator : Nat
  closed : Bool

/-- The interval of a positive finite double. Just above a power of two the lower neighbour is
only half as far away. -/
def intervalOf (significand : Nat) (exponent : Int) : Interval :=
  let unit := Nat.pow 2 exponent.toNat
  let narrow := significand == Nat.pow 2 52 && exponent != leastExponent
  { lower := (4 * significand - if narrow then 1 else 2) * unit
    middle := 4 * significand * unit
    upper := (4 * significand + 2) * unit
    denominator := 4 * Nat.pow 2 (-exponent).toNat
    closed := significand % 2 == 0 }

/-- Whether a ratio lies in the interval. -/
def Interval.holds (interval : Interval) (numerator denominator : Nat) : Bool :=
  let value := numerator * interval.denominator
  let lower := interval.lower * denominator
  let upper := interval.upper * denominator
  if interval.closed then lower ≤ value && value ≤ upper else lower < value && value < upper

/-- The decimal of a given number of digits nearest to the middle of the interval, if one lies in
it. Of two at the same distance the one with the even last digit is taken. -/
def Interval.decimalOf? (interval : Interval) (point : Int) (count : Nat) : Option Decimal :=
  let scale := (count : Int) - point
  let up := Nat.pow 10 scale.toNat
  let down := Nat.pow 10 (-scale).toNat
  let denominator := interval.denominator * down
  let floor := interval.middle * up / denominator
  let rest := interval.middle * up % denominator
  let lowHolds := interval.holds (floor * down) up
  let highHolds := interval.holds ((floor + 1) * down) up
  let lowFirst := 2 * rest < denominator || (2 * rest == denominator && floor % 2 == 0)
  if lowHolds && (lowFirst || !highHolds) then some ⟨floor, count, point⟩
  else if highHolds then some (Decimal.carried ⟨floor + 1, count, point⟩)
  else none

/-- The shortest decimal that reads back, for a positive finite double. Seventeen digits always
suffice; the last case is the exact grid of seventeen. -/
def shortest (significand : Nat) (exponent : Int) : Decimal :=
  let interval := intervalOf significand exponent
  let point := pointOf interval.middle interval.denominator
  let found := (List.range 17).findSome? fun less => interval.decimalOf? point (less + 1)
  (found.getD ⟨significand, 17, point⟩).withoutTrailingZeros 17

/-! ### Digits rounded to a fixed number -/

/-- A positive ratio rounded to a fixed number of digits, a half going to the even neighbour,
without zeros at its end. -/
def significantDigits (count numerator denominator : Nat) : Decimal :=
  let point := pointOf numerator denominator
  let scale := (count : Int) - point
  let digits := divideToEven (numerator * Nat.pow 10 scale.toNat)
    (denominator * Nat.pow 10 (-scale).toNat)
  (Decimal.carried ⟨digits, count, point⟩).withoutTrailingZeros count

/-! ### Layout -/

/-- What a written format decides about a decimal. -/
structure Layout where
  /-- The least power of ten of the first digit that is written positionally. -/
  positionalFrom : Int
  /-- The first power of ten of the first digit that is written with an exponent. -/
  exponentialFrom : Int
  /-- Whether a whole number written positionally ends in `.0`. -/
  wholePoint : Bool
  /-- The texts of what is not a finite number. -/
  notANumberText : String
  infinityText : String

/-- `count` zeros. -/
def zeros (count : Nat) : List Char := List.replicate count '0'

/-- An exponent: a sign and at least two digits. -/
def exponentText (exponent : Int) : List Char :=
  let magnitude := exponent.natAbs
  'e' :: (if exponent < 0 then '-' else '+') ::
    ((if magnitude < 10 then ['0'] else []) ++ Nat.toDigits 10 magnitude)

/-- The digits of a decimal, zeros in front included. -/
def Decimal.text (decimal : Decimal) : List Char :=
  let written := Nat.toDigits 10 decimal.digits
  zeros (decimal.count - written.length) ++ written

/-- A decimal with its point written where it stands. -/
def Decimal.positional (layout : Layout) (decimal : Decimal) : List Char :=
  let digits := decimal.text
  if decimal.point ≤ 0 then '0' :: '.' :: zeros (-decimal.point).toNat ++ digits
  else
    let whole := decimal.point.toNat
    if decimal.count ≤ whole then
      digits ++ zeros (whole - decimal.count) ++ if layout.wholePoint then ['.', '0'] else []
    else digits.take whole ++ '.' :: digits.drop whole

/-- A decimal with one digit before the point and an exponent. -/
def Decimal.exponential (decimal : Decimal) : List Char :=
  match decimal.text with
  | [] => []
  | [digit] => digit :: exponentText (decimal.point - 1)
  | digit :: rest => digit :: '.' :: rest ++ exponentText (decimal.point - 1)

/-- A decimal as a layout writes it. -/
def Decimal.write (layout : Layout) (decimal : Decimal) : List Char :=
  let power := decimal.point - 1
  if layout.positionalFrom ≤ power && power < layout.exponentialFrom then
    decimal.positional layout
  else decimal.exponential

/-- A sign in front of a text. -/
def signed (negative : Bool) (text : List Char) : List Char :=
  if negative then '-' :: text else text

/-- A double as a layout writes it, given how its digits are chosen. -/
def write (layout : Layout) (digits : Nat → Int → Decimal) : Binary64 → String
  | .notANumber => layout.notANumberText
  | .infinite negative => String.ofList (signed negative layout.infinityText.toList)
  | .finite negative significand exponent =>
    if significand == 0 then
      String.ofList (signed negative (if layout.wholePoint then ['0', '.', '0'] else ['0']))
    else String.ofList (signed negative ((digits significand exponent).write layout))

/-- Values are shown with the fewest digits, positionally from 0.0001 to below 10^16, and a
whole number keeps its point. -/
def displayLayout : Layout where
  positionalFrom := -4
  exponentialFrom := 16
  wholePoint := true
  notANumberText := "nan"
  infinityText := "inf"

/-- Durations in messages have six digits at most and are positional from 0.0001 to below 10^6. -/
def durationLayout : Layout where
  positionalFrom := -4
  exponentialFrom := 6
  wholePoint := false
  notANumberText := "nan"
  infinityText := "inf"

/-- In JSON text what is not finite has the names that readers of the format accept. -/
def jsonLayout : Layout :=
  { displayLayout with notANumberText := "NaN", infinityText := "Infinity" }

/-- A double as values are shown. -/
def display : Binary64 → String := write displayLayout shortest

/-- A double as JSON text. -/
def jsonText : Binary64 → String := write jsonLayout shortest

/-- A double as a duration in a message. -/
def durationText : Binary64 → String :=
  write durationLayout fun significand exponent =>
    significantDigits 6 (numeratorOf significand exponent) (denominatorOf exponent)

end ClientModel.Binary64
