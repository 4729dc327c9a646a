import TypeScaffold.Proofs.Decimal.Rounding

/-!
# Shortest decimals read back

The candidates for a decimal are compared with the ends of an interval after both are scaled to
integers. In exact values this says that a decimal lies in the interval that rounds to the number. With
seventeen digits the step from one decimal to the next is shorter than the interval, so one of the two
next to the value lies in it: a shortest decimal is always found.
-/

namespace TypeScaffold.Decimal

/-! ## Ratios -/

theorem scaleDown_pos {base denominator : Nat} (basePositive : 0 < base)
    (positive : 0 < denominator) (numerator : Nat) (power : Int) :
    0 < (scaleDown base numerator denominator power).2 := by
  rw [scaleDown]
  split
  · exact Nat.mul_pos positive (Nat.pow_pos basePositive)
  · exact positive

/-- Scaling down divides the ratio by the power. -/
theorem scaleDown_ratio (base numerator denominator : Nat) (power : Int) :
    ((scaleDown base numerator denominator power).1 : ℚ) /
        (scaleDown base numerator denominator power).2 =
      numerator / denominator / base ^ power := by
  rw [scaleDown]
  split
  · rename_i up
    obtain ⟨places, rfl⟩ := Int.eq_ofNat_of_zero_le up
    change (numerator : ℚ) / ((denominator * base ^ places : Nat) : ℚ) = _
    rw [Nat.cast_mul, Nat.cast_pow, div_mul_eq_div_div, zpow_natCast]
  · rename_i down
    obtain ⟨places, same⟩ := Int.eq_ofNat_of_zero_le (show 0 ≤ -power by omega)
    obtain rfl : power = -(places : Int) := by omega
    rw [neg_neg, Int.toNat_natCast]
    change ((numerator * base ^ places : Nat) : ℚ) / denominator = _
    rw [Nat.cast_mul, Nat.cast_pow, zpow_neg, zpow_natCast, div_inv_eq_mul, mul_div_right_comm]

theorem pow_le_of_length_toDigits {value places : Nat} (positive : 0 < value)
    (length : (Nat.toDigits 10 value).length = places + 1) : 10 ^ places ≤ value := by
  by_contra less
  cases places with
  | zero => exact less positive
  | succ places =>
      have fewer := (Nat.length_toDigits_le_iff (by decide) (Nat.succ_pos places)).mpr
        (not_le.mp less)
      omega

/-- The first digit of a ratio stands no higher than the ratio reaches. -/
theorem leadingExponent_le {numerator denominator : Nat} (positive : 0 < denominator)
    (large : denominator ≤ numerator * 10 ^ placesBehind) :
    (10 : ℚ) ^ leadingExponent numerator denominator ≤ numerator / denominator := by
  obtain ⟨places, length⟩ : ∃ places,
      (Nat.toDigits 10 (numerator * 10 ^ placesBehind / denominator)).length = places + 1 :=
    Nat.exists_eq_succ_of_ne_zero Nat.length_toDigits_pos.ne'
  have product : 10 ^ places * denominator ≤ numerator * 10 ^ placesBehind :=
    (Nat.le_div_iff_mul_le positive).mp
      (pow_le_of_length_toDigits (Nat.div_pos large positive) length)
  have exponent : leadingExponent numerator denominator = (places : Int) - placesBehind := by
    rw [leadingExponent, Nat.pow_eq, length]
    omega
  rw [exponent, zpow_sub₀ (by norm_num), zpow_natCast, zpow_natCast,
    div_le_div_iff₀ (by positivity) (by exact_mod_cast positive)]
  exact_mod_cast product

/-! ## Decimals on a grid -/

namespace Grid

variable {grid : Grid} {significand : Nat} {power : Int}

/-- The common unit in which a quarter of the last bit is `scale` and the place of the last digit is
`step`. -/
def unit (grid : Grid) : ℚ :=
  10 ^ grid.exponent / grid.step

/-- The grid measures the values of a power of two. -/
structure Measures (grid : Grid) (power : Int) : Prop where
  step_pos : 0 < grid.step
  quarter : (2 : ℚ) ^ (power - 2) = grid.scale * grid.unit

theorem Measures.unit_pos (measures : grid.Measures power) : 0 < grid.unit :=
  div_pos (zpow_pos (by norm_num) _) (Nat.cast_pos.mpr measures.step_pos)

theorem Measures.scale_pos (measures : grid.Measures power) : 0 < grid.scale := by
  have positive : 0 < (grid.scale : ℚ) * grid.unit :=
    measures.quarter ▸ zpow_pos (by norm_num) _
  exact Nat.cast_pos.mp (pos_of_mul_pos_left positive measures.unit_pos.le)

theorem Measures.place (measures : grid.Measures power) :
    (10 : ℚ) ^ grid.exponent = grid.step * grid.unit :=
  (mul_div_cancel₀ _ (Nat.cast_ne_zero.mpr measures.step_pos.ne')).symm

/-- Comparing integers compares quarters with decimals. -/
theorem Measures.le_iff (measures : grid.Measures power) (quarterCount digits : Nat) :
    quarterCount * grid.scale ≤ digits * grid.step ↔
      (quarterCount : ℚ) * 2 ^ (power - 2) ≤ digits * 10 ^ grid.exponent := by
  rw [measures.quarter, measures.place, ← mul_assoc, ← mul_assoc,
    mul_le_mul_iff_left₀ measures.unit_pos]
  exact_mod_cast Iff.rfl

theorem Measures.ge_iff (measures : grid.Measures power) (quarterCount digits : Nat) :
    digits * grid.step ≤ quarterCount * grid.scale ↔
      (digits : ℚ) * 10 ^ grid.exponent ≤ quarterCount * 2 ^ (power - 2) := by
  rw [measures.quarter, measures.place, ← mul_assoc, ← mul_assoc,
    mul_le_mul_iff_left₀ measures.unit_pos]
  exact_mod_cast Iff.rfl

/-- A decimal of the grid reads back just when it lies in the interval of the number. -/
theorem Measures.reads_iff (measures : grid.Measures power) {digits : Nat} :
    grid.reads significand power digits = true ↔
      InInterval significand power (digits * 10 ^ grid.exponent) := by
  unfold reads InInterval lowerEnd upperEnd
  generalize quarters significand power = ends
  obtain ⟨least, value, greatest⟩ := ends
  dsimp only
  split
  · rw [decide_eq_true_iff, measures.le_iff, measures.ge_iff]
  · rw [decide_eq_true_iff, ← not_le, ← not_le, measures.le_iff, measures.ge_iff, not_le, not_le]

/-- What is found reads back. -/
theorem reads_of_nearest? {digits : Nat} {exponent : Int}
    (found : grid.nearest? significand power = some (digits, exponent)) :
    exponent = grid.exponent ∧ grid.reads significand power digits = true := by
  unfold nearest? at found
  dsimp only at found
  split at found
  · rename_i below
    split at found
    · rename_i both
      cases found
      exact ⟨rfl, both.1⟩
    · cases found
      exact ⟨rfl, below⟩
  · split at found
    · rename_i above
      cases found
      exact ⟨rfl, above⟩
    · cases found

theorem nearest?_ne_none_of_reads {below : Nat} (value : below = 4 * significand * grid.scale / grid.step)
    (reads : grid.reads significand power below = true ∨
      grid.reads significand power (below + 1) = true) :
    grid.nearest? significand power ≠ none := by
  subst value
  unfold nearest?
  dsimp only
  split
  · split <;> exact Option.some_ne_none _
  · rename_i notBelow
    rw [if_pos (reads.resolve_left notBelow)]
    exact Option.some_ne_none _

/-- Where the step from one decimal to the next is shorter than the interval, one of the two next to
the value reads back. -/
theorem Measures.nearest?_ne_none (measures : grid.Measures power)
    (narrow : (quarters significand power).1 * grid.scale + grid.step <
      (quarters significand power).2.2 * grid.scale) :
    grid.nearest? significand power ≠ none := by
  have least : (quarters significand power).1 ≤ 4 * significand := Nat.sub_le _ _
  have greatest : 4 * significand < (quarters significand power).2.2 :=
    Nat.lt_add_of_pos_right Nat.two_pos
  have fromLeast := Nat.mul_le_mul_right grid.scale least
  have toGreatest := Nat.mul_lt_mul_of_pos_right greatest measures.scale_pos
  obtain ⟨below, value⟩ : ∃ below, below = 4 * significand * grid.scale / grid.step := ⟨_, rfl⟩
  have notAbove : below * grid.step ≤ 4 * significand * grid.scale :=
    value ▸ Nat.div_mul_le_self _ _
  have next : 4 * significand * grid.scale < (below + 1) * grid.step := by
    rw [value]
    exact (Nat.lt_mul_div_succ _ measures.step_pos).trans_eq (Nat.mul_comm _ _)
  refine nearest?_ne_none_of_reads value ?_
  rw [Nat.add_mul, Nat.one_mul] at next
  unfold reads
  generalize quarters significand power = ends at *
  obtain ⟨lower, middle, upper⟩ := ends
  dsimp only at *
  rw [Nat.add_mul, Nat.one_mul]
  split
  · simp only [decide_eq_true_iff]
    omega
  · simp only [decide_eq_true_iff]
    omega

end Grid

/-! ## Seventeen digits suffice -/

section Seventeen

variable {significand : Nat} {power : Int}

theorem quarterOf_pos (power : Int) : 0 < (quarterOf power).2 :=
  scaleDown_pos (by decide) Nat.one_pos 1 (2 - power)

theorem quarterOf_ratio (power : Int) :
    ((quarterOf power).1 : ℚ) / (quarterOf power).2 = 2 ^ (power - 2) := by
  refine (scaleDown_ratio 2 1 1 (2 - power)).trans ?_
  rw [Nat.cast_one, div_one, Nat.cast_ofNat, one_div, ← zpow_neg, neg_sub]

theorem gridAt_measures {quarter : Nat × Nat} (positive : 0 < quarter.2)
    (ratio : (quarter.1 : ℚ) / quarter.2 = 2 ^ (power - 2)) (exponent : Int) :
    (gridAt quarter exponent).Measures power := by
  have stepPositive := scaleDown_pos (by decide : 0 < 10) positive quarter.1 exponent
  refine ⟨stepPositive, ?_⟩
  have scaled := scaleDown_ratio 10 quarter.1 quarter.2 exponent
  rw [ratio, Nat.cast_ofNat] at scaled
  change _ = ((scaleDown 10 quarter.1 quarter.2 exponent).1 : ℚ) *
    (10 ^ exponent / (scaleDown 10 quarter.1 quarter.2 exponent).2)
  rw [mul_div_left_comm, scaled, mul_div_cancel₀ _ (zpow_ne_zero _ (by norm_num))]

theorem gridOf_measures (significand : Nat) (power : Int) (count : Nat) :
    (gridOf significand power count).Measures power :=
  gridAt_measures (quarterOf_pos power) (quarterOf_ratio power) _

/-- No positive number of the format is smaller than `10 ^ -placesBehind`. -/
theorem one_le_magnitude_mul (nonzero : 0 < significand) (least : -1074 ≤ power) :
    1 ≤ magnitude significand power * 10 ^ placesBehind := by
  have unit : (1 : ℚ) ≤ significand := by exact_mod_cast nonzero
  have powers : (2 : ℚ) ^ (-1200 : Int) ≤ 2 ^ power :=
    zpow_le_zpow_right₀ (by norm_num) (by omega)
  have eights : (2 : ℚ) ^ 1200 ≤ 10 ^ placesBehind := by
    rw [show 1200 = 3 * placesBehind from rfl, pow_mul]
    exact pow_le_pow_left₀ (by norm_num) (by norm_num) placesBehind
  calc (1 : ℚ) = 1 * 2 ^ (-1200 : Int) * 2 ^ 1200 := by
        rw [one_mul, ← zpow_natCast, ← zpow_add₀ (by norm_num)]
        rfl
    _ ≤ significand * 2 ^ power * 10 ^ placesBehind :=
        mul_le_mul (mul_le_mul unit powers (by positivity) (by positivity)) eights (by positivity)
          (by positivity)

/-- Seventeen digits that start where the value starts reach down to its sixteenth power of ten. -/
theorem lastPlace_seventeen {quarter : Nat × Nat} (positive : 0 < quarter.2)
    (ratio : (quarter.1 : ℚ) / quarter.2 = 2 ^ (power - 2)) (nonzero : 0 < significand)
    (least : -1074 ≤ power) :
    (10 : ℚ) ^ lastPlace significand quarter 17 * 10 ^ 16 ≤ magnitude significand power := by
  have denominator : (0 : ℚ) < quarter.2 := by exact_mod_cast positive
  have value : ((4 * significand * quarter.1 : Nat) : ℚ) / quarter.2 =
      magnitude significand power := by
    rw [magnitude, two_zpow_eq_four_mul, ← ratio]
    push_cast
    ring
  have large : quarter.2 ≤ 4 * significand * quarter.1 * 10 ^ placesBehind := by
    have reaches := one_le_magnitude_mul nonzero least
    rw [← value, div_mul_eq_mul_div, le_div_iff₀ denominator, one_mul] at reaches
    exact_mod_cast reaches
  have place : lastPlace significand quarter 17 =
      leadingExponent (4 * significand * quarter.1) quarter.2 - (16 : Nat) := rfl
  rw [place, zpow_sub₀ (by norm_num), zpow_natCast, div_mul_cancel₀ _ (by norm_num), ← value]
  exact leadingExponent_le positive large

/-- A step that goes into the value ten to the sixteenth times is shorter than the interval. -/
theorem quarters_wide {scale step : Nat} (canonical : Canonical significand power)
    (nonzero : 0 < significand) (scalePositive : 0 < scale)
    (steps : step * 10 ^ 16 ≤ 4 * (significand * scale)) :
    (quarters significand power).1 * scale + step < (quarters significand power).2.2 * scale := by
  have bits : significand ≤ 9007199254740991 := Nat.le_of_lt_succ canonical.1
  change (4 * significand - if significand = leastFull ∧ -1074 < power then 1 else 2) * scale + step <
    (4 * significand + 2) * scale
  split
  -- The interval of a power of two is shorter, but so is the step.
  · rename_i short
    rw [short.1, leastFull] at steps ⊢
    omega
  · have atLeast := Nat.mul_le_mul_right scale nonzero
    have atMost := Nat.mul_le_mul_right scale bits
    rw [Nat.sub_mul, Nat.add_mul, Nat.mul_assoc]
    omega

/-- With seventeen digits there is always a decimal that reads back. -/
theorem candidate?_seventeen_ne_none (canonical : Canonical significand power)
    (nonzero : 0 < significand) : candidate? significand power 17 ≠ none := by
  have measures := gridOf_measures significand power 17
  have reach := lastPlace_seventeen (quarterOf_pos power) (quarterOf_ratio power) nonzero
    canonical.2.1
  change (10 : ℚ) ^ (gridOf significand power 17).exponent * 10 ^ 16 ≤ _ at reach
  refine measures.nearest?_ne_none ?_
  generalize gridOf significand power 17 = grid at *
  have steps : grid.step * 10 ^ 16 ≤ 4 * (significand * grid.scale) := by
    rw [magnitude, two_zpow_eq_four_mul, measures.quarter, measures.place] at reach
    have scaled : ((grid.step * 10 ^ 16 : Nat) : ℚ) * grid.unit ≤
        ((4 * (significand * grid.scale) : Nat) : ℚ) * grid.unit := by
      push_cast
      linarith
    exact_mod_cast le_of_mul_le_mul_right scaled measures.unit_pos
  exact quarters_wide canonical nonzero measures.scale_pos steps

/-- The shortest decimal of a positive number lies in the interval that rounds to it. -/
theorem shortest_inInterval (canonical : Canonical significand power) (nonzero : 0 < significand) :
    InInterval significand power
      ((shortest significand power).1 * 10 ^ (shortest significand power).2) := by
  have found : ((List.range 17).findSome?
      (fun index => candidate? significand power (index + 1))).isSome := by
    rw [List.findSome?_isSome_iff]
    exact ⟨16, by decide, Option.isSome_iff_ne_none.mpr
      (candidate?_seventeen_ne_none canonical nonzero)⟩
  obtain ⟨⟨digits, exponent⟩, chosen⟩ := Option.isSome_iff_exists.mp found
  have short : shortest significand power = (digits, exponent) := by
    rw [shortest, chosen, Option.getD_some]
  obtain ⟨index, -, candidate⟩ := List.exists_of_findSome?_eq_some chosen
  obtain ⟨rfl, reads⟩ := Grid.reads_of_nearest? candidate
  rw [short]
  exact (gridOf_measures significand power (index + 1)).reads_iff.mp reads

end Seventeen

end TypeScaffold.Decimal
