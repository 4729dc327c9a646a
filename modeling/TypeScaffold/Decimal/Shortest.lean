import TypeScaffold.Decimal.Double

/-!
# Shortest decimals

A double is written with the fewest digits that read back as the same number. For each number of
digits the two decimals next to the value are tried: both ends of the interval of reals that round
to the value belong to it exactly if the significand is even. Of two candidates the nearer is taken,
and of two equally near the even one.
-/

namespace TypeScaffold.Decimal

/-- The interval of reals that round to `significand * 2 ^ power`, in units of a quarter of the last
bit: least, value, greatest. Below a power of two the neighbour is half as far away. -/
def quarters (significand : Nat) (power : Int) : Nat × Nat × Nat :=
  (4 * significand - (if significand = leastFull ∧ -1074 < power then 1 else 2), 4 * significand,
    4 * significand + 2)

/-- So many places behind the point every positive number of the format has a digit. -/
def placesBehind : Nat :=
  400

/-- The exponent of the first digit of a positive ratio whose first digit is not more than
`placesBehind` places behind the point. -/
def leadingExponent (numerator denominator : Nat) : Int :=
  (Nat.toDigits 10 (numerator * Nat.pow 10 placesBehind / denominator)).length -
    (placesBehind + 1 : Nat)

/-- The decimals near a value whose last digit stands at one place. The ratio of `scale` and `step` is
a quarter of the last bit of the value, in units of that place. -/
structure Grid where
  exponent : Int
  scale : Nat
  step : Nat

/-- The grid whose last digit stands at the given place; `quarter` is a quarter of the last bit. -/
def gridAt (quarter : Nat × Nat) (exponent : Int) : Grid :=
  let scaled := scaleDown 10 quarter.1 quarter.2 exponent
  ⟨exponent, scaled.1, scaled.2⟩

/-- The place of the last of the given number of digits that start where the value starts. -/
def lastPlace (significand : Nat) (quarter : Nat × Nat) (count : Nat) : Int :=
  leadingExponent (4 * significand * quarter.1) quarter.2 - (count - 1 : Nat)

/-- A quarter of the last bit as a ratio. -/
def quarterOf (power : Int) : Nat × Nat :=
  scaleDown 2 1 1 (2 - power)

/-- The grid of the decimals with the given number of digits that start where the value starts. -/
def gridOf (significand : Nat) (power : Int) (count : Nat) : Grid :=
  gridAt (quarterOf power) (lastPlace significand (quarterOf power) count)

/-- Whether a decimal of the grid reads back as the value. -/
def Grid.reads (grid : Grid) (significand : Nat) (power : Int) (digits : Nat) : Bool :=
  let (least, _, greatest) := quarters significand power
  if significand % 2 = 0 then
    least * grid.scale ≤ digits * grid.step ∧ digits * grid.step ≤ greatest * grid.scale
  else
    least * grid.scale < digits * grid.step ∧ digits * grid.step < greatest * grid.scale

/-- The decimal `digits * 10 ^ exponent` of the grid next to the value that reads back as it. -/
def Grid.nearest? (grid : Grid) (significand : Nat) (power : Int) : Option (Nat × Int) :=
  let value := 4 * significand * grid.scale
  let below := value / grid.step
  let middle := (2 * below + 1) * grid.step
  if grid.reads significand power below then
    if grid.reads significand power (below + 1) ∧
        (middle < 2 * value ∨ (middle = 2 * value ∧ below % 2 = 1)) then
      some (below + 1, grid.exponent)
    else
      some (below, grid.exponent)
  else if grid.reads significand power (below + 1) then
    some (below + 1, grid.exponent)
  else
    none

/-- The decimal next to the value that has the given number of digits and reads back as the value. -/
def candidate? (significand : Nat) (power : Int) (count : Nat) : Option (Nat × Int) :=
  (gridOf significand power count).nearest? significand power

/-- The shortest decimal of a positive magnitude; seventeen digits always suffice. -/
def shortest (significand : Nat) (power : Int) : Nat × Int :=
  ((List.range 17).findSome? (fun index => candidate? significand power (index + 1))).getD (0, 0)

/-- The digits without the zeros at their end; at least one digit stays. -/
def withoutZeros (digits : List Char) : List Char :=
  match (digits.reverse.dropWhile (· = '0')).reverse with
  | [] => ['0']
  | kept => kept

/-- A decimal exponent with its sign and at least two digits. -/
def exponentChars (exponent : Int) : List Char :=
  let digits := Nat.toDigits 10 exponent.natAbs
  (if exponent < 0 then '-' else '+') :: (if digits.length < 2 then '0' :: digits else digits)

/-- The first digit of `digits` stands at the given exponent. From `10 ^ -4` to below `10 ^ 16` the
number is positional, with at least one digit on each side of the point; else it has one digit
before the point and an exponent. -/
def decimalChars (digits : List Char) (exponent : Int) : List Char :=
  if -4 ≤ exponent ∧ exponent < 16 then
    if exponent < 0 then
      '0' :: '.' :: (List.replicate (-exponent - 1).toNat '0' ++ digits)
    else
      let whole := exponent.toNat + 1
      let fraction := digits.drop whole
      digits.take whole ++ List.replicate (whole - digits.length) '0' ++
        '.' :: (if fraction.isEmpty then ['0'] else fraction)
  else
    match digits with
    | [] => []
    | [digit] => digit :: 'e' :: exponentChars exponent
    | digit :: rest => digit :: '.' :: (rest ++ 'e' :: exponentChars exponent)

def magnitudeChars (significand : Nat) (power : Int) : List Char :=
  if significand = 0 then
    ['0', '.', '0']
  else
    let (value, exponent) := shortest significand power
    let digits := Nat.toDigits 10 value
    decimalChars (withoutZeros digits) (exponent + digits.length - 1)

/-- The text of a number: the shortest decimal that reads back. -/
def Double.text : Double → String
  | .nan => "nan"
  | .infinity false => "inf"
  | .infinity true => "-inf"
  | .finite negative significand power _ =>
      String.ofList ((if negative then ['-'] else []) ++ magnitudeChars significand power)

end TypeScaffold.Decimal
