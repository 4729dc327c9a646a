/-!
# Double-precision numbers

A finite number is kept as its sign, its significand and its power of two, in the one form that the
64-bit format has for it, so equal numbers are equal terms (the two zeros differ by their sign).
`ofDecimal` rounds a decimal number to the format in exact arithmetic.
-/

namespace TypeScaffold.Decimal

/-- The least significand with 53 bits. -/
def leastFull : Nat :=
  4503599627370496

/-- The least significand with more than 53 bits. -/
def tooWide : Nat :=
  9007199254740992

/-- The form of a magnitude in the 64-bit format: 53 bits, all of them in use unless the power of
two is the least one. -/
def Canonical (significand : Nat) (power : Int) : Prop :=
  significand < tooWide ∧ -1074 ≤ power ∧ power ≤ 971 ∧ (leastFull ≤ significand ∨ power = -1074)

instance (significand : Nat) (power : Int) : Decidable (Canonical significand power) :=
  inferInstanceAs (Decidable (_ ∧ _ ∧ _ ∧ (_ ∨ _)))

/-- A number of the 64-bit format. A finite one has the magnitude `significand * 2 ^ power`. -/
inductive Double where
  | nan
  | infinity (negative : Bool)
  | finite (negative : Bool) (significand : Nat) (power : Int)
      (canonical : Canonical significand power)
  deriving DecidableEq

/-- The zero of either sign. -/
def Double.zero (negative : Bool) : Double :=
  .finite negative 0 (-1074) (by decide)

instance : Inhabited Double :=
  ⟨.zero false⟩

/-- The quotient rounded to the nearest natural number, a half to the even neighbour. -/
def roundHalfEven (numerator denominator : Nat) : Nat :=
  let quotient := numerator / denominator
  let rest := numerator % denominator
  if denominator < 2 * rest ∨ (2 * rest = denominator ∧ quotient % 2 = 1) then
    quotient + 1
  else
    quotient

/-- Numerator and denominator of a ratio divided by `base ^ power`. -/
def scaleDown (base numerator denominator : Nat) (power : Int) : Nat × Nat :=
  if 0 ≤ power then
    (numerator, denominator * base.pow power.toNat)
  else
    (numerator * base.pow (-power).toNat, denominator)

/-- The power of two that leaves 53 bits before the point of the ratio, or the least power. -/
def powerFor (numerator denominator : Nat) : Int :=
  let estimate : Int := numerator.log2 - denominator.log2
  let (scaledNumerator, scaledDenominator) := scaleDown 2 numerator denominator estimate
  max (-1074) (if scaledDenominator ≤ scaledNumerator then estimate - 52 else estimate - 53)

/-- The number of the format nearest to a ratio; what exceeds the format is infinite. -/
def Double.ofRatio (negative : Bool) (numerator denominator : Nat) : Double :=
  if numerator = 0 then
    .zero negative
  else
    let power := powerFor numerator denominator
    let (scaledNumerator, scaledDenominator) := scaleDown 2 numerator denominator power
    let rounded := roundHalfEven scaledNumerator scaledDenominator
    let (significand, power) :=
      if rounded = tooWide then (leastFull, power + 1) else (rounded, power)
    if canonical : Canonical significand power then
      .finite negative significand power canonical
    else
      .infinity negative

/-- The number of the format nearest to `digits * 10 ^ exponent`. Magnitudes far outside the format
are settled without computing the power of ten. -/
def Double.ofDecimal (negative : Bool) (digits : Nat) (exponent : Int) : Double :=
  let magnitude : Int := (Nat.toDigits 10 digits).length + exponent
  if digits = 0 ∨ magnitude < -330 then
    .zero negative
  else if 310 < magnitude then
    .infinity negative
  else
    let (numerator, denominator) := scaleDown 10 digits 1 (-exponent)
    .ofRatio negative numerator denominator

/-- The value of a finite number that is whole. -/
def Double.toInt? : Double → Option Int
  | .nan => none
  | .infinity _ => none
  | .finite negative significand power _ =>
      let signed (magnitude : Nat) : Int := if negative then -(magnitude : Int) else magnitude
      if 0 ≤ power then
        some (signed (significand * Nat.pow 2 power.toNat))
      else if significand % Nat.pow 2 (-power).toNat = 0 then
        some (signed (significand / Nat.pow 2 (-power).toNat))
      else
        none

end TypeScaffold.Decimal
