import Mathlib.Algebra.Order.Field.Power
import Mathlib.Data.Rat.Cast.Order
import Mathlib.Tactic.Linarith
import Mathlib.Tactic.Ring
import TypeScaffold.Decimal.Shortest

/-!
# Rounding to the nearest number

The values of finite numbers are rationals. What is read rounds to the number whose value is nearest,
and of two equally near to the one whose significand is even. Between two numbers next to each other
lies their midpoint, and up to the midpoints on both sides everything rounds to a number: this is the
interval from which the shortest decimal is taken.
-/

namespace TypeScaffold.Decimal

/-- The exact value of a magnitude of the format. -/
def magnitude (significand : Nat) (power : Int) : ℚ :=
  significand * 2 ^ power

/-- The value of a magnitude behind a sign. -/
def signed (negative : Bool) (value : ℚ) : ℚ :=
  if negative then -value else value

/-- The exact value, if the number is finite. -/
def Double.value? : Double → Option ℚ
  | .finite negative significand power _ => some (signed negative (magnitude significand power))
  | .nan => none
  | .infinity _ => none

/-- The significand is even. -/
def Double.IsEven : Double → Prop
  | .finite _ significand _ _ => significand % 2 = 0
  | .nan => False
  | .infinity _ => False

/-- The exact value rounds to the number: it does not round to what exceeds the format, no number is
nearer to it, and if another one is as near, the significand is even. -/
def Double.IsNearest (number : Double) (exact : ℚ) : Prop :=
  ∃ value, number.value? = some value ∧ |exact| < 2 ^ 1024 - 2 ^ 970 ∧
    ∀ (other : Double) (otherValue : ℚ), other.value? = some otherValue →
      |exact - value| ≤ |exact - otherValue| ∧
        (|exact - value| = |exact - otherValue| → otherValue = value ∨ number.IsEven)

/-- Reading the exact value gives the number: the nearest finite one, or infinity if the value rounds
to what exceeds the format. -/
def Double.IsReadFrom (number : Double) (exact : ℚ) : Prop :=
  match number with
  | .nan => False
  | .infinity negative => 2 ^ 1024 - 2 ^ 970 ≤ signed negative exact
  | .finite _ _ _ _ => number.IsNearest exact

/-! ## Signs and powers -/

theorem abs_signed (negative : Bool) (value : ℚ) : |signed negative value| = |value| := by
  cases negative with
  | false => rfl
  | true => exact abs_neg value

theorem signed_signed (negative : Bool) (value : ℚ) :
    signed negative (signed negative value) = value := by
  cases negative with
  | false => rfl
  | true => exact neg_neg value

theorem abs_signed_sub (negative : Bool) (first second : ℚ) :
    |signed negative first - second| = |first - signed negative second| := by
  cases negative with
  | false => rfl
  | true =>
      change |-first - second| = |first - -second|
      rw [← abs_neg, neg_sub', neg_neg]

theorem magnitude_nonneg (significand : Nat) (power : Int) : 0 ≤ magnitude significand power :=
  mul_nonneg (Nat.cast_nonneg significand) (zpow_nonneg (by norm_num) power)

/-- A magnitude in units of a lower power of two. -/
theorem magnitude_eq_of_le {significand : Nat} {power lower : Int} (le : lower ≤ power) :
    magnitude significand power =
      ((significand * 2 ^ (power - lower).toNat : Nat) : ℚ) * 2 ^ lower := by
  have split : (2 : ℚ) ^ power = 2 ^ (power - lower).toNat * 2 ^ lower := by
    rw [← zpow_natCast, Int.toNat_of_nonneg (by omega), ← zpow_add₀ (by norm_num)]
    congr 1
    omega
  rw [magnitude, split]
  push_cast
  ring

theorem two_zpow_pred (power : Int) : (2 : ℚ) ^ (power - 1) = 2 ^ power / 2 :=
  zpow_sub_one₀ (by norm_num) power

/-! ## Neighbours -/

section Neighbours

variable {significand other : Nat} {power otherPower : Int}

/-- Above a lower power of two all 53 bits are in use. -/
theorem Canonical.leastFull_le (canonical : Canonical significand power) (above : -1074 < power) :
    leastFull ≤ significand := by
  obtain ⟨-, -, -, full | least⟩ := canonical
  · exact full
  · omega

/-- A magnitude with a lower power of two stays below all with 53 bits, by half a unit at least. -/
theorem magnitude_le_of_lt (canonical : Canonical other otherPower) (lower : otherPower < power) :
    magnitude other otherPower ≤ (leastFull - 1 / 2) * 2 ^ power := by
  have narrow : (other : ℚ) ≤ 9007199254740991 := by
    have bound := canonical.1
    rw [tooWide] at bound
    exact_mod_cast (show other ≤ 9007199254740991 by omega)
  have powers : (2 : ℚ) ^ otherPower ≤ 2 ^ power / 2 := by
    rw [← two_zpow_pred]
    exact zpow_le_zpow_right₀ (by norm_num) (by omega)
  calc magnitude other otherPower
      ≤ 9007199254740991 * (2 ^ power / 2) :=
        mul_le_mul narrow powers (zpow_nonneg (by norm_num) _) (by norm_num)
    _ = (leastFull - 1 / 2) * 2 ^ power := by
        rw [leastFull]
        push_cast
        ring

theorem le_magnitude_of_lt (canonical : Canonical significand power)
    (greater : magnitude significand power < magnitude other otherPower)
    (otherCanonical : Canonical other otherPower) :
    (significand + 1) * 2 ^ power ≤ magnitude other otherPower := by
  have positive : (0 : ℚ) < 2 ^ power := zpow_pos (by norm_num) power
  rcases le_or_gt power otherPower with same | lower
  · rw [magnitude_eq_of_le same] at greater ⊢
    have more := lt_of_mul_lt_mul_right greater positive.le
    have next : significand + 1 ≤ other * 2 ^ (otherPower - power).toNat := by exact_mod_cast more
    exact mul_le_mul_of_nonneg_right (by exact_mod_cast next) positive.le
  · have full : (leastFull : ℚ) ≤ significand := by
      exact_mod_cast canonical.leastFull_le (lt_of_le_of_lt otherCanonical.2.1 lower)
    have below := magnitude_le_of_lt otherCanonical lower
    have within : (leastFull - 1 / 2 : ℚ) * 2 ^ power ≤ magnitude significand power :=
      mul_le_mul_of_nonneg_right (by linarith) positive.le
    linarith

theorem magnitude_le_of_gt (canonical : Canonical significand power)
    (less : magnitude other otherPower < magnitude significand power)
    (otherCanonical : Canonical other otherPower) :
    magnitude other otherPower ≤ (significand - 1) * 2 ^ power ∨
      (significand = leastFull ∧ -1074 < power ∧
        magnitude other otherPower ≤ (significand - 1 / 2) * 2 ^ power) := by
  have positive : (0 : ℚ) < 2 ^ power := zpow_pos (by norm_num) power
  rcases le_or_gt power otherPower with same | lower
  · left
    rw [magnitude_eq_of_le same] at less ⊢
    have fewer := lt_of_mul_lt_mul_right less positive.le
    have next : other * 2 ^ (otherPower - power).toNat + 1 ≤ significand := by exact_mod_cast fewer
    refine mul_le_mul_of_nonneg_right ?_ positive.le
    rw [le_sub_iff_add_le]
    exact_mod_cast next
  · have above := lt_of_le_of_lt otherCanonical.2.1 lower
    have below := magnitude_le_of_lt otherCanonical lower
    rcases (canonical.leastFull_le above).eq_or_lt with rfl | more
    · exact Or.inr ⟨rfl, above, below⟩
    · have next : (leastFull : ℚ) + 1 ≤ significand := by exact_mod_cast more
      exact Or.inl (below.trans (mul_le_mul_of_nonneg_right (by linarith) positive.le))

end Neighbours

/-! ## The interval that rounds to a number -/

/-- The least value of the interval. -/
def lowerEnd (significand : Nat) (power : Int) : ℚ :=
  (quarters significand power).1 * 2 ^ (power - 2)

/-- The greatest value of the interval. -/
def upperEnd (significand : Nat) (power : Int) : ℚ :=
  (quarters significand power).2.2 * 2 ^ (power - 2)

/-- The value is in the interval, to which both ends belong exactly if the significand is even. -/
def InInterval (significand : Nat) (power : Int) (exact : ℚ) : Prop :=
  if significand % 2 = 0 then
    lowerEnd significand power ≤ exact ∧ exact ≤ upperEnd significand power
  else
    lowerEnd significand power < exact ∧ exact < upperEnd significand power

section Interval

variable {significand other : Nat} {power otherPower : Int} {exact : ℚ}

theorem two_zpow_eq_four_mul (power : Int) : (2 : ℚ) ^ power = 4 * 2 ^ (power - 2) := by
  rw [zpow_sub₀ (by norm_num)]
  norm_num
  ring

theorem upperEnd_eq (significand : Nat) (power : Int) :
    upperEnd significand power = (significand + 1 / 2) * 2 ^ power := by
  rw [upperEnd, quarters, two_zpow_eq_four_mul power]
  push_cast
  ring

theorem lowerEnd_eq (positive : 0 < significand) (power : Int) :
    lowerEnd significand power =
      (significand - if significand = leastFull ∧ -1074 < power then 1 / 4 else 1 / 2) * 2 ^ power := by
  rw [lowerEnd, quarters, two_zpow_eq_four_mul power]
  split
  · rw [Nat.cast_sub (by omega)]
    push_cast
    ring
  · rw [Nat.cast_sub (by omega)]
    push_cast
    ring

theorem lowerEnd_pos (positive : 0 < significand) (power : Int) : 0 < lowerEnd significand power := by
  have atLeast : (1 : ℚ) ≤ significand := by exact_mod_cast positive
  rw [lowerEnd_eq positive]
  refine mul_pos ?_ (zpow_pos (by norm_num) power)
  split <;> linarith

theorem InInterval.bounds (inside : InInterval significand power exact) :
    lowerEnd significand power ≤ exact ∧ exact ≤ upperEnd significand power := by
  rw [InInterval] at inside
  split at inside
  · exact inside
  · exact ⟨inside.1.le, inside.2.le⟩

/-- Only an even significand has the ends of its interval. -/
theorem InInterval.even_of_end (inside : InInterval significand power exact)
    (atEnd : exact = lowerEnd significand power ∨ exact = upperEnd significand power) :
    significand % 2 = 0 := by
  rw [InInterval] at inside
  split at inside
  · assumption
  · rcases atEnd with rfl | rfl
    · exact absurd inside.1 (lt_irrefl _)
    · exact absurd inside.2 (lt_irrefl _)

theorem InInterval.pos (positive : 0 < significand) (inside : InInterval significand power exact) :
    0 < exact :=
  (lowerEnd_pos positive power).trans_le inside.bounds.1

/-- The midpoint towards a greater number is not below the upper end. -/
theorem two_mul_upperEnd_le (canonical : Canonical significand power)
    (otherCanonical : Canonical other otherPower)
    (greater : magnitude significand power < magnitude other otherPower) :
    2 * upperEnd significand power ≤ magnitude significand power + magnitude other otherPower := by
  have next := le_magnitude_of_lt canonical greater otherCanonical
  rw [upperEnd_eq, magnitude]
  linarith

/-- The midpoint towards a smaller number is not above the lower end. -/
theorem le_two_mul_lowerEnd (positive : 0 < significand) (canonical : Canonical significand power)
    (otherCanonical : Canonical other otherPower)
    (less : magnitude other otherPower < magnitude significand power) :
    magnitude significand power + magnitude other otherPower ≤ 2 * lowerEnd significand power := by
  rw [lowerEnd_eq positive]
  rcases magnitude_le_of_gt canonical less otherCanonical with whole | ⟨rfl, above, half⟩
  · have unit : (0 : ℚ) < 2 ^ power := zpow_pos (by norm_num) power
    split <;> rw [magnitude] <;> linarith
  · rw [if_pos ⟨rfl, above⟩, magnitude]
    linarith

end Interval

/-! ## Nearest numbers -/

/-- On its own side of the midpoint a value is nearer, and on the midpoint as near. -/
theorem abs_sub_le_of_two_mul_le {value near far : ℚ} (order : near < far)
    (side : 2 * value ≤ near + far) :
    |value - near| ≤ |value - far| ∧ (|value - near| = |value - far| → 2 * value = near + far) := by
  have toFar : |value - far| = far - value := by
    rw [abs_of_nonpos (by linarith), neg_sub]
  rw [toFar]
  refine ⟨abs_le.mpr ⟨by linarith, by linarith⟩, fun same => ?_⟩
  rcases abs_choice (value - near) with equal | equal <;> rw [equal] at same <;> linarith

theorem abs_sub_le_of_le_two_mul {value near far : ℚ} (order : far < near)
    (side : near + far ≤ 2 * value) :
    |value - near| ≤ |value - far| ∧ (|value - near| = |value - far| → 2 * value = near + far) := by
  have toFar : |value - far| = value - far := abs_of_nonneg (by linarith)
  rw [toFar]
  refine ⟨abs_le.mpr ⟨by linarith, by linarith⟩, fun same => ?_⟩
  rcases abs_choice (value - near) with equal | equal <;> rw [equal] at same <;> linarith

section Nearest

variable {significand other : Nat} {power otherPower : Int} {exact : ℚ}

/-- No magnitude is nearer to a value in the interval. -/
theorem InInterval.abs_sub_le (positive : 0 < significand)
    (inside : InInterval significand power exact) (canonical : Canonical significand power)
    (otherCanonical : Canonical other otherPower) :
    |exact - magnitude significand power| ≤ |exact - magnitude other otherPower| ∧
      (|exact - magnitude significand power| = |exact - magnitude other otherPower| →
        magnitude other otherPower = magnitude significand power ∨ significand % 2 = 0) := by
  obtain ⟨fromBelow, fromAbove⟩ := inside.bounds
  rcases lt_trichotomy (magnitude significand power) (magnitude other otherPower) with
    greater | same | less
  · have midpoint := two_mul_upperEnd_le canonical otherCanonical greater
    obtain ⟨nearer, tie⟩ := abs_sub_le_of_two_mul_le greater (by linarith : 2 * exact ≤ _)
    refine ⟨nearer, fun equal => Or.inr (inside.even_of_end (Or.inr ?_))⟩
    linarith [tie equal]
  · rw [same]
    exact ⟨le_rfl, fun _ => Or.inl rfl⟩
  · have midpoint := le_two_mul_lowerEnd positive canonical otherCanonical less
    obtain ⟨nearer, tie⟩ := abs_sub_le_of_le_two_mul less (by linarith : _ ≤ 2 * exact)
    refine ⟨nearer, fun equal => Or.inr (inside.even_of_end (Or.inl ?_))⟩
    linarith [tie equal]

/-- Behind the other sign a magnitude is farther from a positive value. -/
theorem abs_sub_le_abs_sub_signed (negative : Bool) {value far : ℚ} (positive : 0 < value)
    (nonneg : 0 ≤ far) :
    |value - far| ≤ |value - signed negative far| ∧
      (|value - far| = |value - signed negative far| → signed negative far = far) := by
  cases negative with
  | false => exact ⟨le_rfl, fun _ => rfl⟩
  | true =>
      have toFar : |value - signed true far| = value + far := by
        change |value - -far| = _
        rw [sub_neg_eq_add, abs_of_nonneg (by linarith)]
      rw [toFar]
      refine ⟨abs_le.mpr ⟨by linarith, by linarith⟩, fun same => ?_⟩
      change -far = far
      rcases abs_choice (value - far) with equal | equal <;> rw [equal] at same <;> linarith

theorem upperEnd_le (canonical : Canonical significand power) :
    upperEnd significand power ≤ (significand + 1 / 2) * 2 ^ 971 := by
  rw [upperEnd_eq]
  refine mul_le_mul_of_nonneg_left ?_ (by positivity)
  exact_mod_cast zpow_le_zpow_right₀ (by norm_num : (1 : ℚ) ≤ 2) canonical.2.2.1

/-- What is in an interval does not exceed the format. -/
theorem InInterval.lt_overflow (inside : InInterval significand power exact)
    (canonical : Canonical significand power) : exact < 2 ^ 1024 - 2 ^ 970 := by
  have last : (2 : ℚ) ^ 1024 - 2 ^ 970 = (9007199254740991 + 1 / 2) * 2 ^ 971 := by
    rw [pow_add 2 970 54, pow_succ 2 970]
    generalize (2 : ℚ) ^ 970 = unit
    ring
  have atMost := upperEnd_le canonical
  have narrow := canonical.1
  rw [tooWide] at narrow
  rw [last]
  rw [InInterval] at inside
  split at inside
  · rename_i even
    have fewer : significand + 1 ≤ 9007199254740991 := by omega
    have fewer : (significand : ℚ) + 1 ≤ 9007199254740991 := by exact_mod_cast fewer
    calc exact ≤ (significand + 1 / 2) * 2 ^ 971 := inside.2.trans atMost
      _ < (9007199254740991 + 1 / 2) * 2 ^ 971 :=
        mul_lt_mul_of_pos_right (by linarith) (by positivity)
  · have fewer : (significand : ℚ) ≤ 9007199254740991 := by
      exact_mod_cast (show significand ≤ 9007199254740991 by omega)
    calc exact < (significand + 1 / 2) * 2 ^ 971 := inside.2.trans_le atMost
      _ ≤ (9007199254740991 + 1 / 2) * 2 ^ 971 :=
        mul_le_mul_of_nonneg_right (by linarith) (by positivity)

theorem signed_signed_eq (negative other : Bool) (value : ℚ) :
    signed negative (signed other value) = signed (negative ^^ other) value := by
  cases negative <;> cases other <;> simp [signed]

/-- Every value in the interval of a number rounds to it. -/
theorem isNearest_of_inInterval (negative : Bool) (positive : 0 < significand)
    (canonical : Canonical significand power) (inside : InInterval significand power exact) :
    (Double.finite negative significand power canonical).IsNearest (signed negative exact) := by
  have exactPositive := inside.pos positive
  refine ⟨_, rfl, ?_, ?_⟩
  · rw [abs_signed, abs_of_pos exactPositive]
    exact inside.lt_overflow canonical
  · intro otherNumber otherValue found
    cases otherNumber with
    | nan => cases found
    | infinity _ => cases found
    | finite otherNegative other otherPower otherCanonical =>
        obtain rfl := Option.some.inj found
        have apart : |signed negative exact - signed otherNegative (magnitude other otherPower)| =
            |exact - signed (negative ^^ otherNegative) (magnitude other otherPower)| := by
          rw [abs_signed_sub, signed_signed_eq]
        rw [abs_signed_sub, signed_signed, apart]
        obtain ⟨nearer, tie⟩ := inside.abs_sub_le positive canonical otherCanonical
        obtain ⟨sameSide, sideTie⟩ := abs_sub_le_abs_sub_signed (negative ^^ otherNegative)
          exactPositive (magnitude_nonneg other otherPower)
        refine ⟨nearer.trans sameSide, fun equal => ?_⟩
        -- In a tie both of these inequalities are equalities.
        have equalNear := le_antisymm nearer (sameSide.trans equal.ge)
        have equalFar := le_antisymm sameSide (equal.ge.trans nearer)
        refine (tie equalNear).imp (fun same => ?_) id
        calc signed otherNegative (magnitude other otherPower)
            = signed negative (signed negative (signed otherNegative (magnitude other otherPower))) :=
              (signed_signed negative _).symm
          _ = signed negative (magnitude significand power) := by
              rw [signed_signed_eq negative otherNegative, sideTie equalFar, same]

end Nearest

/-! ## Whole numbers -/

theorem magnitude_lt_upperEnd (significand : Nat) (power : Int) :
    magnitude significand power < upperEnd significand power := by
  have unit : (0 : ℚ) < 2 ^ power := zpow_pos (by norm_num) power
  rw [upperEnd_eq, magnitude]
  linarith

theorem magnitude_inInterval {significand : Nat} (positive : 0 < significand) (power : Int) :
    InInterval significand power (magnitude significand power) := by
  have unit : (0 : ℚ) < 2 ^ power := zpow_pos (by norm_num) power
  have below : lowerEnd significand power < magnitude significand power := by
    rw [lowerEnd_eq positive, magnitude]
    split <;> linarith
  have above := magnitude_lt_upperEnd significand power
  rw [InInterval]
  split
  · exact ⟨below.le, above.le⟩
  · exact ⟨below, above⟩

/-- The value of a number rounds to the number. -/
theorem isNearest_value {number : Double} {value : ℚ} (found : number.value? = some value) :
    number.IsNearest value := by
  refine ⟨value, found, ?_, fun other otherValue _ => ?_⟩
  · cases number with
    | nan => cases found
    | infinity _ => cases found
    | finite negative significand power canonical =>
        obtain rfl := Option.some.inj found
        rw [abs_signed, abs_of_nonneg (magnitude_nonneg significand power)]
        rcases Nat.eq_zero_or_pos significand with rfl | positive
        · rw [magnitude, Nat.cast_zero, zero_mul, sub_pos]
          exact pow_lt_pow_right₀ (by norm_num) (by norm_num)
        · exact (magnitude_inInterval positive power).lt_overflow canonical
  · rw [sub_self, abs_zero]
    exact ⟨abs_nonneg _, fun same => Or.inl (sub_eq_zero.mp (abs_eq_zero.mp same.symm)).symm⟩

theorem signed_intCast (negative : Bool) (whole : Nat) :
    signed negative whole = ((if negative then -(whole : Int) else whole : Int) : ℚ) := by
  cases negative with
  | false => rfl
  | true => exact (Int.cast_neg _).symm

/-- A number of the format is so many of the units of a negative power of two. -/
theorem magnitude_mul_units (significand : Nat) {power : Int} (negativePower : power < 0) :
    magnitude significand power * ((2 ^ (-power).toNat : Nat) : ℚ) = significand := by
  rw [magnitude, Nat.cast_pow, ← zpow_natCast, Int.toNat_of_nonneg (by omega), mul_assoc,
    Nat.cast_ofNat, ← zpow_add₀ (by norm_num), add_neg_cancel, zpow_zero, mul_one]

/-- A number is taken for whole just when its value is. -/
theorem toInt?_eq_some_iff {number : Double} {whole : Int} :
    number.toInt? = some whole ↔ number.value? = some (whole : ℚ) := by
  cases number with
  | nan => exact iff_of_false nofun nofun
  | infinity _ => exact iff_of_false nofun nofun
  | finite negative significand power canonical =>
      rw [Double.value?, Double.toInt?]
      dsimp only
      split
      · rename_i atLeast
        have natural : magnitude significand power =
            ((significand * 2 ^ power.toNat : Nat) : ℚ) := by
          rw [magnitude_eq_of_le atLeast, sub_zero, zpow_zero, mul_one]
        rw [natural, signed_intCast, Option.some.injEq, Option.some.injEq, Int.cast_inj]
        rfl
      · rename_i below
        have units := magnitude_mul_units significand (not_le.mp below)
        have positive : 0 < 2 ^ (-power).toNat := Nat.two_pow_pos _
        split
        · rename_i noRest
          have divides : 2 ^ (-power).toNat ∣ significand := Nat.dvd_of_mod_eq_zero noRest
          have natural : magnitude significand power =
              ((significand / 2 ^ (-power).toNat : Nat) : ℚ) := by
            refine mul_right_cancel₀ (Nat.cast_ne_zero.mpr positive.ne') ?_
            rw [units, ← Nat.cast_mul, Nat.div_mul_cancel divides]
          rw [natural, signed_intCast, Option.some.injEq, Option.some.injEq, Int.cast_inj]
          rfl
        · rename_i remains
          refine iff_of_false nofun (fun found => remains ?_)
          have value : magnitude significand power = (whole.natAbs : ℚ) := by
            rw [← abs_of_nonneg (magnitude_nonneg significand power), ← abs_signed negative,
              Option.some.inj found, Nat.cast_natAbs, Int.cast_abs]
          rw [value] at units
          have product : whole.natAbs * 2 ^ (-power).toNat = significand := by exact_mod_cast units
          exact product ▸ Nat.mul_mod_left _ _

end TypeScaffold.Decimal
