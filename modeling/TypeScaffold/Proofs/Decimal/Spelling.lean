import TypeScaffold.Proofs.Decimal.Shortest

/-!
# Decimal literals

A decimal literal has digits, perhaps digits behind a point, and perhaps a power of ten; it stands for
one rational number, and a minus sign before it for the opposite one. The numerals of integers stand
for them, and the text of a finite number that is not zero stands for its shortest decimal: where the
point and the zeros go depends on the exponent, what they say does not.
-/

namespace TypeScaffold.Decimal

/-! ## The characters -/

/-- The characters with which numbers are written. -/
def NumeralChar (c : Char) : Prop :=
  c.isDigit = true ∨ c ∈ ['.', 'e', '+', '-']

instance (c : Char) : Decidable (NumeralChar c) :=
  inferInstanceAs (Decidable (_ ∨ _))

/-- Something is written, with the characters of numerals only. -/
def IsNumeral (text : String) : Prop :=
  text ≠ "" ∧ ∀ c ∈ text.toList, NumeralChar c

instance (text : String) : Decidable (IsNumeral text) :=
  @instDecidableAnd _ _ _ (List.decidableBAll NumeralChar text.toList)

/-! ## The grammar -/

/-- The characters are digits, one at least. -/
def AreDigits (digits : List Char) : Prop :=
  digits ≠ [] ∧ ∀ c ∈ digits, c.isDigit = true

/-- A power of ten behind the letter `e`. -/
structure PowerOfTen where
  negative : Bool
  digits : List Char
  areDigits : AreDigits digits

/-- A decimal literal without a sign. No zero stands before other digits. -/
structure DecimalLiteral where
  whole : List Char
  fraction : List Char
  power : Option PowerOfTen
  wholeDigits : AreDigits whole
  unpadded : whole.head? = some '0' → whole = ['0']
  fractionDigits : ∀ c ∈ fraction, c.isDigit = true

namespace PowerOfTen

def chars (power : PowerOfTen) : List Char :=
  'e' :: (if power.negative then '-' else '+') :: power.digits

def value (power : PowerOfTen) : Int :=
  if power.negative then -(Nat.ofDigitChars 10 power.digits 0 : Int)
  else Nat.ofDigitChars 10 power.digits 0

end PowerOfTen

namespace DecimalLiteral

/-- The characters of the literal; without a fraction there is no point. -/
def chars (literal : DecimalLiteral) : List Char :=
  literal.whole ++ (if literal.fraction = [] then [] else '.' :: literal.fraction) ++
    literal.power.elim [] PowerOfTen.chars

/-- The number for which the literal stands. -/
def value (literal : DecimalLiteral) : ℚ :=
  Nat.ofDigitChars 10 (literal.whole ++ literal.fraction) 0 *
    10 ^ (literal.power.elim 0 PowerOfTen.value - literal.fraction.length)

end DecimalLiteral

def signChars (negative : Bool) : List Char :=
  if negative then ['-'] else []

/-- The text is a decimal literal, perhaps behind a minus sign, that stands for the number. -/
def StandsFor (text : String) (value : ℚ) : Prop :=
  ∃ (negative : Bool) (literal : DecimalLiteral),
    text.toList = signChars negative ++ literal.chars ∧ signed negative literal.value = value

theorem numeralChar_of_mem_chars {literal : DecimalLiteral} {c : Char}
    (member : c ∈ literal.chars) : NumeralChar c := by
  rw [DecimalLiteral.chars, List.mem_append, List.mem_append] at member
  rcases member with (whole | fraction) | power
  · exact Or.inl (literal.wholeDigits.2 c whole)
  · split at fraction
    · cases fraction
    · rcases List.mem_cons.mp fraction with rfl | digit
      · decide
      · exact Or.inl (literal.fractionDigits c digit)
  · cases behind : literal.power with
    | none =>
        rw [behind] at power
        cases power
    | some powerOfTen =>
        rw [behind, Option.elim_some, PowerOfTen.chars] at power
        rcases List.mem_cons.mp power with rfl | later
        · decide
        · rcases List.mem_cons.mp later with rfl | digit
          · split <;> decide
          · exact Or.inl (powerOfTen.areDigits.2 c digit)

/-- A text that stands for a number is written with the characters of numerals. -/
theorem isNumeral_of_standsFor {text : String} {value : ℚ} (stands : StandsFor text value) :
    IsNumeral text := by
  obtain ⟨negative, literal, chars, -⟩ := stands
  refine ⟨fun empty => ?_, fun c member => ?_⟩
  · rw [empty] at chars
    have nothing := List.append_eq_nil_iff.mp chars.symm
    have whole := List.append_eq_nil_iff.mp (List.append_eq_nil_iff.mp nothing.2).1
    exact literal.wholeDigits.1 whole.1
  · rw [chars] at member
    rcases List.mem_append.mp member with sign | magnitude
    · cases negative with
      | false => cases sign
      | true => exact List.mem_singleton.mp sign ▸ by decide
    · exact numeralChar_of_mem_chars magnitude

/-! ## Digits -/

theorem ofDigitChars_append_ten (first second : List Char) :
    Nat.ofDigitChars 10 (first ++ second) 0 =
      10 ^ second.length * Nat.ofDigitChars 10 first 0 + Nat.ofDigitChars 10 second 0 := by
  rw [Nat.ofDigitChars_append, Nat.ofDigitChars_eq_ofDigitChars_zero]

theorem ofDigitChars_zeros (count : Nat) :
    Nat.ofDigitChars 10 (List.replicate count '0') 0 = 0 := by
  rw [Nat.ofDigitChars_replicate_zero, Nat.mul_zero]

/-- Zeros in front change nothing. -/
theorem ofDigitChars_zeros_append (count : Nat) (digits : List Char) :
    Nat.ofDigitChars 10 (List.replicate count '0' ++ digits) 0 = Nat.ofDigitChars 10 digits 0 := by
  rw [ofDigitChars_append_ten, ofDigitChars_zeros, Nat.mul_zero, Nat.zero_add]

/-- Zeros at the end multiply by a power of ten. -/
theorem ofDigitChars_append_zeros (digits : List Char) (count : Nat) :
    Nat.ofDigitChars 10 (digits ++ List.replicate count '0') 0 =
      10 ^ count * Nat.ofDigitChars 10 digits 0 := by
  rw [ofDigitChars_append_ten, ofDigitChars_zeros, List.length_replicate, Nat.add_zero]

theorem areDigits_toDigits (value : Nat) : AreDigits (Nat.toDigits 10 value) :=
  ⟨Nat.toDigits_ne_nil, fun _ member =>
    Nat.isDigit_of_mem_toDigits (by decide) (by decide) member⟩

/-- The numeral of a positive number starts with no zero. -/
theorem head?_toDigits_ne (value : Nat) (positive : 0 < value) :
    (Nat.toDigits 10 value).head? ≠ some '0' := by
  induction value using Nat.strongRecOn with
  | ind value inductionHypothesis =>
      rw [Nat.toDigits_eq_if (by decide)]
      split
      · rename_i single
        have each : ∀ digit < 10, 0 < digit → some (Nat.digitChar digit) ≠ some '0' := by decide
        exact each value single positive
      · rename_i longer
        have shorter := inductionHypothesis (value / 10) (by omega) (by omega)
        obtain ⟨first, rest, start⟩ := List.exists_cons_of_ne_nil
          (Nat.toDigits_ne_nil (n := value / 10) (b := 10))
        rw [start] at shorter ⊢
        exact shorter

theorem areDigits_zero : AreDigits ['0'] :=
  ⟨List.cons_ne_nil _ _, fun _ member => List.mem_singleton.mp member ▸ rfl⟩

theorem areDigits_append {first second : List Char} (areDigits : AreDigits first)
    (digits : ∀ c ∈ second, c.isDigit = true) : AreDigits (first ++ second) :=
  ⟨List.append_ne_nil_of_left_ne_nil areDigits.1 second,
    List.forall_mem_append.mpr ⟨areDigits.2, digits⟩⟩

theorem isDigit_of_mem_zeros {count : Nat} {c : Char} (member : c ∈ List.replicate count '0') :
    c.isDigit = true :=
  List.eq_of_mem_replicate member ▸ rfl

/-- The numeral of a positive number is what is left of it without the zeros at its end, which starts
with no zero, and these zeros. -/
theorem toDigits_eq_append_zeros {value : Nat} (positive : 0 < value) :
    ∃ first rest count, withoutZeros (Nat.toDigits 10 value) = first :: rest ∧
      Nat.toDigits 10 value = first :: rest ++ List.replicate count '0' ∧ first ≠ '0' := by
  have split := List.takeWhile_append_dropWhile (p := (· = '0'))
    (l := (Nat.toDigits 10 value).reverse)
  have zeros := List.eq_replicate_of_mem (a := '0')
    (l := (Nat.toDigits 10 value).reverse.takeWhile (· = '0'))
    (fun c member => of_decide_eq_true (List.all_eq_true.mp List.all_takeWhile c member))
  rw [zeros, ← List.reverse_inj, List.reverse_reverse, List.reverse_append,
    List.reverse_replicate] at split
  unfold withoutZeros
  generalize ((Nat.toDigits 10 value).reverse.takeWhile (· = '0')).length = count at split
  generalize ((Nat.toDigits 10 value).reverse.dropWhile (· = '0')).reverse = kept at split ⊢
  cases kept with
  | nil =>
      have nothing := congrArg (Nat.ofDigitChars 10 · 0) split
      simp only [List.nil_append, ofDigitChars_zeros, Nat.ofDigitChars_ten_toDigits] at nothing
      omega
  | cons first rest =>
      refine ⟨first, rest, count, rfl, split.symm, ?_⟩
      rintro rfl
      exact head?_toDigits_ne value positive (by rw [← split]; rfl)

/-! ## Decimals -/

/-- The characters of an exponent are those of a power of ten with it. -/
theorem exists_powerOfTen (exponent : Int) :
    ∃ power : PowerOfTen, power.chars = 'e' :: exponentChars exponent ∧ power.value = exponent := by
  obtain ⟨padded, named⟩ : ∃ padded, padded =
      if (Nat.toDigits 10 exponent.natAbs).length < 2 then '0' :: Nat.toDigits 10 exponent.natAbs
      else Nat.toDigits 10 exponent.natAbs := ⟨_, rfl⟩
  have numeral := areDigits_toDigits exponent.natAbs
  have areDigits : AreDigits padded := by
    rw [named]
    split
    · exact areDigits_append areDigits_zero numeral.2
    · exact numeral
  have value : Nat.ofDigitChars 10 padded 0 = exponent.natAbs := by
    rw [named]
    split
    · exact (ofDigitChars_zeros_append 1 _).trans Nat.ofDigitChars_ten_toDigits
    · exact Nat.ofDigitChars_ten_toDigits
  refine ⟨⟨exponent < 0, padded, areDigits⟩, ?_, ?_⟩
  · rw [PowerOfTen.chars, exponentChars, ← named]
    simp only [decide_eq_true_eq]
  · rw [PowerOfTen.value]
    simp only [decide_eq_true_eq, value]
    omega

section Decimals

variable {digits : List Char}

/-- Behind a zero and the point. -/
theorem exists_literal_behind (areDigits : AreDigits digits) (places : Nat) :
    ∃ literal : DecimalLiteral,
      literal.chars = '0' :: '.' :: (List.replicate places '0' ++ digits) ∧
      literal.value =
        Nat.ofDigitChars 10 digits 0 * 10 ^ (-(places : Int) - digits.length) := by
  have fraction : ∀ c ∈ List.replicate places '0' ++ digits, c.isDigit = true :=
    List.forall_mem_append.mpr ⟨fun _ => isDigit_of_mem_zeros, areDigits.2⟩
  refine ⟨⟨['0'], List.replicate places '0' ++ digits, none, areDigits_zero, fun _ => rfl,
    fraction⟩, ?_, ?_⟩
  · rw [DecimalLiteral.chars, if_neg (List.append_ne_nil_of_right_ne_nil _ areDigits.1)]
    exact List.append_nil _
  · have value := ofDigitChars_zeros_append (places + 1) digits
    rw [List.replicate_succ, List.cons_append] at value
    rw [DecimalLiteral.value]
    change (Nat.ofDigitChars 10 ('0' :: (List.replicate places '0' ++ digits)) 0 : ℚ) * _ = _
    rw [value, List.length_append, List.length_replicate]
    congr 2
    change (0 : Int) - ((places + digits.length : Nat) : Int) = _
    omega

/-- Before the point, filled up with zeros. -/
theorem exists_literal_before (areDigits : AreDigits digits) (start : digits.head? ≠ some '0')
    (zeros : Nat) :
    ∃ literal : DecimalLiteral,
      literal.chars = digits ++ List.replicate zeros '0' ++ ['.', '0'] ∧
      literal.value = Nat.ofDigitChars 10 digits 0 * 10 ^ (zeros : Int) := by
  obtain ⟨first, rest, rfl⟩ := List.exists_cons_of_ne_nil areDigits.1
  have whole : AreDigits (first :: rest ++ List.replicate zeros '0') :=
    areDigits_append areDigits (fun _ => isDigit_of_mem_zeros)
  refine ⟨⟨first :: rest ++ List.replicate zeros '0', ['0'], none, whole,
    fun zero => absurd zero start, areDigits_zero.2⟩, List.append_nil _, ?_⟩
  have value := ofDigitChars_append_zeros (first :: rest) (zeros + 1)
  rw [List.replicate_succ', ← List.append_assoc] at value
  rw [DecimalLiteral.value]
  change (Nat.ofDigitChars 10 (first :: rest ++ List.replicate zeros '0' ++ ['0']) 0 : ℚ) *
    10 ^ (-1 : Int) = _
  rw [value]
  push_cast
  rw [pow_succ, zpow_neg_one, zpow_natCast]
  ring

/-- With a point between the digits and perhaps a power of ten. -/
theorem exists_literal_between {first : Char} {rest fraction : List Char}
    (areDigits : AreDigits (first :: rest ++ fraction)) (start : first ≠ '0')
    (power : Option PowerOfTen) :
    ∃ literal : DecimalLiteral,
      literal.chars = first :: rest ++ (if fraction = [] then [] else '.' :: fraction) ++
        power.elim [] PowerOfTen.chars ∧
      literal.value = Nat.ofDigitChars 10 (first :: rest ++ fraction) 0 *
        10 ^ (power.elim 0 PowerOfTen.value - fraction.length) := by
  have whole : AreDigits (first :: rest) :=
    ⟨List.cons_ne_nil _ _, fun c member => areDigits.2 c (List.mem_append_left _ member)⟩
  exact ⟨⟨first :: rest, fraction, power, whole,
    fun zero => absurd (Option.some.inj zero) start,
    fun c member => areDigits.2 c (List.mem_append_right _ member)⟩, rfl, rfl⟩

/-- The characters of a decimal stand for the digits with the first one at the exponent. -/
theorem exists_literal_decimalChars (areDigits : AreDigits digits)
    (start : digits.head? ≠ some '0') (exponent : Int) :
    ∃ literal : DecimalLiteral, literal.chars = decimalChars digits exponent ∧
      literal.value = Nat.ofDigitChars 10 digits 0 * 10 ^ (exponent + 1 - digits.length) := by
  obtain ⟨first, rest, rfl⟩ := List.exists_cons_of_ne_nil areDigits.1
  have nonzero : first ≠ '0' := fun zero => start (congrArg some zero)
  unfold decimalChars
  split
  · split
    -- Behind the point.
    · rename_i small
      obtain ⟨places, same⟩ := Int.eq_ofNat_of_zero_le (show 0 ≤ -exponent - 1 by omega)
      obtain ⟨literal, chars, value⟩ := exists_literal_behind areDigits places
      refine ⟨literal, ?_, ?_⟩
      · rw [chars, same, Int.toNat_natCast]
      · rw [value, ← same]
        congr 2
        omega
    · rename_i large
      obtain ⟨places, rfl⟩ := Int.eq_ofNat_of_zero_le (not_lt.mp large)
      dsimp only
      rw [Int.toNat_natCast]
      -- The point comes after all digits or between two of them.
      rcases le_or_gt (first :: rest).length (places + 1) with short | long
      · obtain ⟨literal, chars, value⟩ :=
          exists_literal_before areDigits start (places + 1 - (first :: rest).length)
        refine ⟨literal, ?_, ?_⟩
        · rw [chars, List.take_of_length_le short, List.drop_of_length_le short]
          rfl
        · rw [value, Nat.cast_sub short]
          rfl
      · have cut : (first :: rest).take (places + 1) ++ (first :: rest).drop (places + 1) =
            first :: rest := List.take_append_drop _ _
        have more : rest.drop places ≠ [] := by
          rw [List.ne_nil_iff_length_pos, List.length_drop]
          rw [List.length_cons] at long
          omega
        rw [List.take_succ_cons, List.drop_succ_cons] at cut ⊢
        obtain ⟨literal, chars, value⟩ :=
          exists_literal_between (cut.symm ▸ areDigits) nonzero none
        refine ⟨literal, ?_, ?_⟩
        · rw [chars, if_neg more, Nat.sub_eq_zero_of_le long.le, List.isEmpty_eq_false_iff.mpr more]
          simp
        · rw [value, cut, List.length_drop]
          congr 2
          rw [List.length_cons] at long ⊢
          change (0 : Int) - _ = _
          omega
  · obtain ⟨power, powerChars, powerValue⟩ := exists_powerOfTen exponent
    have apart : AreDigits ([first] ++ rest) := areDigits
    obtain ⟨literal, chars, value⟩ := exists_literal_between apart nonzero (some power)
    refine ⟨literal, ?_, ?_⟩
    · rw [chars, Option.elim_some, powerChars]
      cases rest with
      | nil => rfl
      | cons second rest => simp
    · rw [value, Option.elim_some, powerValue, List.length_cons]
      congr 2
      omega

end Decimals

/-! ## Texts of numbers -/

/-- The numeral of an integer stands for it. -/
theorem standsFor_toString (whole : Int) : StandsFor (toString whole) whole := by
  have numeral : ∀ magnitude : Nat, ∃ literal : DecimalLiteral,
      literal.chars = Nat.toDigits 10 magnitude ∧ literal.value = magnitude := by
    intro magnitude
    have unpadded : (Nat.toDigits 10 magnitude).head? = some '0' →
        Nat.toDigits 10 magnitude = ['0'] := by
      intro zero
      rcases Nat.eq_zero_or_pos magnitude with rfl | positive
      · rfl
      · exact absurd zero (head?_toDigits_ne magnitude positive)
    refine ⟨⟨Nat.toDigits 10 magnitude, [], none, areDigits_toDigits magnitude, unpadded,
      fun _ none => nomatch none⟩, ?_, ?_⟩
    · rw [DecimalLiteral.chars, if_pos rfl, List.append_nil]
      exact List.append_nil _
    · rw [DecimalLiteral.value, List.append_nil, Nat.ofDigitChars_ten_toDigits]
      simp
  cases whole with
  | ofNat magnitude =>
      obtain ⟨literal, chars, value⟩ := numeral magnitude
      refine ⟨false, literal, ?_, value⟩
      rw [chars]
      exact String.toList_ofList
  | negSucc magnitude =>
      obtain ⟨literal, chars, value⟩ := numeral (magnitude + 1)
      refine ⟨true, literal, ?_, ?_⟩
      · rw [chars]
        change ("-" ++ String.ofList (Nat.toDigits 10 (magnitude + 1))).toList = _
        rw [String.toList_append, String.toList_ofList, String.toList_ofList]
        rfl
      · rw [value, Int.cast_negSucc]
        rfl

/-- The digits of a decimal, without the zeros at their end, stand for it at its exponent. -/
theorem exists_literal_decimal {value : Nat} (positive : 0 < value) (exponent : Int) :
    ∃ literal : DecimalLiteral,
      literal.chars = decimalChars (withoutZeros (Nat.toDigits 10 value))
        (exponent + (Nat.toDigits 10 value).length - 1) ∧
      literal.value = value * 10 ^ exponent := by
  obtain ⟨first, rest, zeros, kept, digits, start⟩ := toDigits_eq_append_zeros positive
  have areDigits : AreDigits (first :: rest) := by
    refine ⟨List.cons_ne_nil _ _, fun c member => (areDigits_toDigits value).2 c ?_⟩
    rw [digits]
    exact List.mem_append_left _ member
  have whole : value = 10 ^ zeros * Nat.ofDigitChars 10 (first :: rest) 0 := by
    rw [← ofDigitChars_append_zeros, ← digits, Nat.ofDigitChars_ten_toDigits]
  obtain ⟨literal, chars, stands⟩ := exists_literal_decimalChars areDigits
    (fun zero => start (Option.some.inj zero)) (exponent + (Nat.toDigits 10 value).length - 1)
  have place : exponent + (Nat.toDigits 10 value).length - 1 + 1 - (first :: rest).length =
      (zeros : Int) + exponent := by
    rw [digits, List.length_append, List.length_replicate]
    omega
  refine ⟨literal, by rw [chars, kept], ?_⟩
  rw [stands, place, zpow_add₀ (by norm_num), zpow_natCast]
  conv => rhs; rw [whole]
  push_cast
  ring

/-- The text of a finite number that is not zero stands for its shortest decimal. -/
theorem standsFor_text (negative : Bool) {significand : Nat} {power : Int}
    (canonical : Canonical significand power) (nonzero : 0 < significand) :
    StandsFor (Double.finite negative significand power canonical).text
      (signed negative
        ((shortest significand power).1 * 10 ^ (shortest significand power).2)) := by
  have positive := (shortest_inInterval canonical nonzero).pos nonzero
  have magnitudeText : (Double.finite negative significand power canonical).text.toList =
      signChars negative ++ magnitudeChars significand power := String.toList_ofList
  rw [magnitudeChars, if_neg nonzero.ne'] at magnitudeText
  generalize shortest significand power = decimal at positive magnitudeText ⊢
  obtain ⟨digits, exponent⟩ := decimal
  have digitsPositive : 0 < digits := by
    exact_mod_cast pos_of_mul_pos_left positive (zpow_nonneg (by norm_num) exponent)
  obtain ⟨literal, chars, value⟩ := exists_literal_decimal digitsPositive exponent
  exact ⟨negative, literal, by rw [magnitudeText, chars], by rw [value]⟩

/-- Zero is written with a point. -/
theorem standsFor_text_zero (negative : Bool) {power : Int} (canonical : Canonical 0 power) :
    StandsFor (Double.finite negative 0 power canonical).text 0 := by
  refine ⟨negative, ⟨['0'], ['0'], none, areDigits_zero, fun _ => rfl, areDigits_zero.2⟩,
    String.toList_ofList, ?_⟩
  have value : Nat.ofDigitChars 10 (['0'] ++ ['0']) 0 = 0 := rfl
  rw [DecimalLiteral.value, value, Nat.cast_zero, zero_mul]
  cases negative with
  | false => rfl
  | true => exact neg_zero

/-- A finite number is written as a numeral. -/
theorem isNumeral_text {negative : Bool} {significand : Nat} {power : Int}
    (canonical : Canonical significand power) :
    IsNumeral (Double.finite negative significand power canonical).text := by
  rcases Nat.eq_zero_or_pos significand with rfl | nonzero
  · exact isNumeral_of_standsFor (standsFor_text_zero negative canonical)
  · exact isNumeral_of_standsFor (standsFor_text negative canonical nonzero)

theorem isNumeral_toString (value : Int) : IsNumeral (toString value) :=
  isNumeral_of_standsFor (standsFor_toString value)

end TypeScaffold.Decimal
