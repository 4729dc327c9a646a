import TypeScaffold.Json.Value

/-!
# Numerals

The longest numeral at the start of a text. A point or an exponent mark belongs to it only if digits
follow.
-/

namespace TypeScaffold.Json

open Decimal

/-- The digits at the start of a text. -/
def leadingDigits (chars : List Char) : List Char :=
  chars.takeWhile Char.isDigit

/-- The number that digits write. -/
def digitsValue (digits : List Char) : Nat :=
  digits.foldl (fun value digit => value * 10 + (digit.toNat - 48)) 0

/-- The parts of a numeral: sign, digits before and after the point, and the exponent as it is
written, with the characters that it takes. -/
structure Numeral where
  negative : Bool
  whole : List Char
  fraction : List Char
  exponent : Option (Bool × List Char × Nat)

/-- The digits before the point: one zero, or digits that do not begin with zero. -/
def wholePart (chars : List Char) : List Char :=
  match chars with
  | '0' :: _ => ['0']
  | _ => leadingDigits chars

/-- The digits behind a point. -/
def fractionPart (chars : List Char) : List Char :=
  match chars with
  | '.' :: rest => leadingDigits rest
  | _ => []

/-- The sign and the digits behind an exponent mark, and the length of both with the mark. -/
def exponentPart (chars : List Char) : Option (Bool × List Char × Nat) :=
  match chars with
  | mark :: rest =>
      if mark = 'e' ∨ mark = 'E' then
        let (negative, digits, width) :=
          match rest with
          | '-' :: rest => (true, leadingDigits rest, 2)
          | '+' :: rest => (false, leadingDigits rest, 2)
          | _ => (false, leadingDigits rest, 1)
        if digits.isEmpty then none else some (negative, digits, width + digits.length)
      else
        none
  | [] => none

/-- How many characters the numeral takes. -/
def Numeral.length (numeral : Numeral) : Nat :=
  (if numeral.negative then 1 else 0) + numeral.whole.length +
    (if numeral.fraction.isEmpty then 0 else numeral.fraction.length + 1) +
    (match numeral.exponent with
    | none => 0
    | some (_, _, length) => length)

/-- The numeral at the start of a text. -/
def Numeral.scan? (chars : List Char) : Option Numeral :=
  let (negative, unsigned) :=
    match chars with
    | '-' :: rest => (true, rest)
    | _ => (false, chars)
  let whole := wholePart unsigned
  if whole.isEmpty then
    none
  else
    let afterWhole := unsigned.drop whole.length
    let fraction := fractionPart afterWhole
    let afterFraction :=
      if fraction.isEmpty then afterWhole else afterWhole.drop (fraction.length + 1)
    some ⟨negative, whole, fraction, exponentPart afterFraction⟩

/-- An integer if there is neither point nor exponent, else the double nearest to the decimal. -/
def Numeral.value (numeral : Numeral) : Json :=
  match numeral.fraction, numeral.exponent with
  | [], none =>
      let magnitude : Int := digitsValue numeral.whole
      .int (if numeral.negative then -magnitude else magnitude)
  | fraction, exponent =>
      let shift : Int :=
        match exponent with
        | none => 0
        | some (negative, digits, _) =>
            if negative then -(digitsValue digits : Int) else digitsValue digits
      .float (.ofDecimal numeral.negative (digitsValue (numeral.whole ++ fraction))
        (shift - fraction.length))

end TypeScaffold.Json
