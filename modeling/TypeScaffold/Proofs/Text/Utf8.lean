import TypeScaffold.Text.Utf8

/-!
# Decoding UTF-8

Octets decode to a text exactly if they are the encoding of the text. Inside a character the decoder
takes the octets that are still owed, and they write the character.
-/

namespace TypeScaffold.Text.Utf8

/-! ## Characters -/

/-- The character after an octet that it may have next. -/
def Pending.after (pending : Pending) (octet : UInt8) : Pending :=
  ⟨pending.octet, pending.position, pending.seen + 1, pending.owed - 1, 0x80, 0xBF,
    pending.value * 64 + (octet.toNat - 0x80)⟩

/-- The octets complete the character with the value. -/
inductive Pending.Takes : Pending → List UInt8 → Nat → Prop where
  | last {pending : Pending} {octet : UInt8} (single : pending.owed ≤ 1)
      (low : pending.low ≤ octet.toNat) (high : octet.toNat ≤ pending.high) :
      Takes pending [octet] (pending.after octet).value
  | more {pending : Pending} {octet : UInt8} {octets : List UInt8} {value : Nat}
      (several : 1 < pending.owed) (low : pending.low ≤ octet.toNat)
      (high : octet.toNat ≤ pending.high) (later : Takes (pending.after octet) octets value) :
      Takes pending (octet :: octets) value

theorem decodeFrom_of_takes {pending : Pending} {octets : List UInt8} {value : Nat}
    (takes : pending.Takes octets value) (position : Nat) (rest : List UInt8) :
    decodeFrom position (some pending) (octets ++ rest) =
      (decodeFrom (position + octets.length) none rest).map (Char.ofNat value :: ·) := by
  induction takes generalizing position with
  | @last pending octet single low high =>
      have inRange : ¬ (octet.toNat < pending.low ∨ pending.high < octet.toNat) := by omega
      rw [List.singleton_append, decodeFrom, if_neg inRange]
      exact if_pos single
  | @more pending octet octets value several low high _ inductionHypothesis =>
      have inRange : ¬ (octet.toNat < pending.low ∨ pending.high < octet.toNat) := by omega
      have owes : ¬ pending.owed ≤ 1 := by omega
      have step := inductionHypothesis (position + 1)
      rw [List.cons_append, decodeFrom, if_neg inRange]
      refine (if_neg owes).trans (step.trans ?_)
      rw [List.length_cons, Nat.add_comm octets.length, Nat.add_assoc]

/-- What decodes inside a character begins with the octets that complete it. -/
theorem exists_takes_of_decodeFrom {octets : List UInt8} {chars : List Char} :
    ∀ {pending : Pending} {position : Nat}, decodeFrom position (some pending) octets = .ok chars →
      ∃ taken rest value more later, octets = taken ++ rest ∧ pending.Takes taken value ∧
        decodeFrom later none rest = .ok more ∧ chars = Char.ofNat value :: more := by
  induction octets with
  | nil =>
      intro pending position decoded
      cases decoded
  | cons octet octets inductionHypothesis =>
      intro pending position decoded
      rw [decodeFrom] at decoded
      split at decoded
      · cases decoded
      · rename_i inRange
        have low : pending.low ≤ octet.toNat := by omega
        have high : octet.toNat ≤ pending.high := by omega
        by_cases single : pending.owed ≤ 1
        · rw [if_pos single] at decoded
          cases result : decodeFrom (position + 1) none octets with
          | error fault =>
              rw [result] at decoded
              cases decoded
          | ok more =>
              rw [result] at decoded
              cases decoded
              exact ⟨[octet], octets, _, more, position + 1, rfl, .last single low high, result,
                rfl⟩
        · rw [if_neg single] at decoded
          obtain ⟨taken, rest, value, more, later, rfl, takes, result, rfl⟩ :=
            inductionHypothesis decoded
          exact ⟨octet :: taken, rest, value, more, later, rfl,
            .more (by omega) low high takes, result, rfl⟩

/-! ## Octets of a character -/

theorem toNat_ofNat_of_lt {number : Nat} (small : number < 256) :
    (UInt8.ofNat number).toNat = number := by
  rw [UInt8.toNat_ofNat']
  exact Nat.mod_eq_of_lt small

theorem ofNat_eq_of_toNat {number : Nat} {octet : UInt8} (equal : number = octet.toNat) :
    UInt8.ofNat number = octet := by
  rw [equal, UInt8.ofNat_toNat]

theorem val_toNat_ofNat {value : Nat} (valid : value.isValidChar) :
    (Char.ofNat value).val.toNat = value := by
  rw [Char.ofNat, dif_pos valid]
  rfl

/-- The second and later octets of a character. -/
def IsTail (octet : UInt8) : Prop :=
  0x80 ≤ octet.toNat ∧ octet.toNat ≤ 0xBF

theorem utf8EncodeChar_two {first second : UInt8} {value : Nat} (low : 0xC2 ≤ first.toNat)
    (high : first.toNat ≤ 0xDF) (tail : IsTail second)
    (equal : value = (first.toNat - 0xC0) * 64 + (second.toNat - 0x80)) :
    String.utf8EncodeChar (Char.ofNat value) = [first, second] := by
  obtain ⟨tailLow, tailHigh⟩ := tail
  have valid : value.isValidChar := by unfold Nat.isValidChar; omega
  have lead : value / 64 % 32 + 192 = first.toNat := by omega
  have last : value % 64 + 128 = second.toNat := by omega
  unfold String.utf8EncodeChar
  dsimp only
  rw [val_toNat_ofNat valid, if_neg (by omega), if_pos (by omega), ofNat_eq_of_toNat lead,
    ofNat_eq_of_toNat last]

theorem utf8EncodeChar_three {first second third : UInt8} {value : Nat}
    (low : 0xE0 ≤ first.toNat) (high : first.toNat ≤ 0xEF) (tail : IsTail second)
    (tailToo : IsTail third) (valid : value.isValidChar) (large : 0x800 ≤ value)
    (equal : value =
      ((first.toNat - 0xE0) * 64 + (second.toNat - 0x80)) * 64 + (third.toNat - 0x80)) :
    String.utf8EncodeChar (Char.ofNat value) = [first, second, third] := by
  obtain ⟨tailLow, tailHigh⟩ := tail
  obtain ⟨tailLowToo, tailHighToo⟩ := tailToo
  have lead : value / 4096 % 16 + 224 = first.toNat := by omega
  have middle : value / 64 % 64 + 128 = second.toNat := by omega
  have last : value % 64 + 128 = third.toNat := by omega
  unfold String.utf8EncodeChar
  dsimp only
  rw [val_toNat_ofNat valid, if_neg (by omega), if_neg (by omega), if_pos (by omega),
    ofNat_eq_of_toNat lead, ofNat_eq_of_toNat middle, ofNat_eq_of_toNat last]

theorem utf8EncodeChar_four {first second third fourth : UInt8} {value : Nat}
    (low : 0xF0 ≤ first.toNat) (high : first.toNat ≤ 0xF4) (tail : IsTail second)
    (tailToo : IsTail third) (tailLast : IsTail fourth) (valid : value.isValidChar)
    (large : 0x10000 ≤ value)
    (equal : value = (((first.toNat - 0xF0) * 64 + (second.toNat - 0x80)) * 64 +
      (third.toNat - 0x80)) * 64 + (fourth.toNat - 0x80)) :
    String.utf8EncodeChar (Char.ofNat value) = [first, second, third, fourth] := by
  obtain ⟨tailLow, tailHigh⟩ := tail
  obtain ⟨tailLowToo, tailHighToo⟩ := tailToo
  obtain ⟨tailLowLast, tailHighLast⟩ := tailLast
  have lead : value / 262144 % 8 + 240 = first.toNat := by omega
  have upper : value / 4096 % 64 + 128 = second.toNat := by omega
  have middle : value / 64 % 64 + 128 = third.toNat := by omega
  have last : value % 64 + 128 = fourth.toNat := by omega
  unfold String.utf8EncodeChar
  dsimp only
  rw [val_toNat_ofNat valid, if_neg (by omega), if_neg (by omega), if_neg (by omega),
    ofNat_eq_of_toNat lead, ofNat_eq_of_toNat upper, ofNat_eq_of_toNat middle,
    ofNat_eq_of_toNat last]

/-- What completes a character that owes a single octet. -/
theorem exists_of_takes_one {pending : Pending} {taken : List UInt8} {value : Nat}
    (owed : pending.owed = 1) (takes : pending.Takes taken value) :
    ∃ octet : UInt8, taken = [octet] ∧ pending.low ≤ octet.toNat ∧ octet.toNat ≤ pending.high ∧
      value = pending.value * 64 + (octet.toNat - 0x80) := by
  cases takes with
  | @last _ octet _ low high => exact ⟨octet, rfl, low, high, rfl⟩
  | more several _ _ _ => omega

/-- What completes a character that owes several octets. -/
theorem exists_of_takes_more {pending : Pending} {taken : List UInt8} {value : Nat}
    (owed : 1 < pending.owed) (takes : pending.Takes taken value) :
    ∃ octet rest, taken = octet :: rest ∧ pending.low ≤ octet.toNat ∧
      octet.toNat ≤ pending.high ∧ (pending.after octet).Takes rest value := by
  cases takes with
  | last single _ _ => omega
  | @more _ octet rest _ _ low high later => exact ⟨octet, rest, rfl, low, high, later⟩

/-- The octets that a character takes encode it. -/
theorem utf8EncodeChar_of_takes {octet : UInt8} {position value : Nat} {pending : Pending}
    {taken : List UInt8} (begins : begin? octet position = some pending)
    (takes : pending.Takes taken value) :
    String.utf8EncodeChar (Char.ofNat value) = octet :: taken := by
  unfold begin? at begins
  dsimp only at begins
  split at begins
  · rename_i lead
    obtain rfl := Option.some.inj begins
    obtain ⟨second, rfl, low, high, equal⟩ := exists_of_takes_one rfl takes
    exact utf8EncodeChar_two lead.1 lead.2 ⟨low, high⟩ equal
  split at begins
  · rename_i lead
    obtain rfl := Option.some.inj begins
    obtain ⟨second, rest, rfl, low, high, later⟩ := exists_of_takes_more Nat.one_lt_two takes
    obtain ⟨third, rfl, lowToo, highToo, equal⟩ := exists_of_takes_one rfl later
    dsimp only [Pending.after] at low high lowToo highToo equal
    have tailLow : 0x80 ≤ second.toNat := by split at low <;> omega
    have tailHigh : second.toNat ≤ 0xBF := by split at high <;> omega
    have large : 0x800 ≤ value := by split at low <;> omega
    have valid : value.isValidChar := by
      unfold Nat.isValidChar
      split at high <;> omega
    exact utf8EncodeChar_three lead.1 lead.2 ⟨tailLow, tailHigh⟩ ⟨lowToo, highToo⟩ valid large
      equal
  split at begins
  · rename_i lead
    obtain rfl := Option.some.inj begins
    obtain ⟨second, rest, rfl, low, high, later⟩ := exists_of_takes_more (by simp) takes
    obtain ⟨third, rest, rfl, lowToo, highToo, last⟩ :=
      exists_of_takes_more (by simp [Pending.after]) later
    obtain ⟨fourth, rfl, lowLast, highLast, equal⟩ := exists_of_takes_one rfl last
    dsimp only [Pending.after] at low high lowToo highToo lowLast highLast equal
    have tailLow : 0x80 ≤ second.toNat := by split at low <;> omega
    have tailHigh : second.toNat ≤ 0xBF := by split at high <;> omega
    have large : 0x10000 ≤ value := by split at low <;> omega
    have valid : value.isValidChar := by
      unfold Nat.isValidChar
      split at high <;> omega
    exact utf8EncodeChar_four lead.1 lead.2 ⟨tailLow, tailHigh⟩ ⟨lowToo, highToo⟩
      ⟨lowLast, highLast⟩ valid large equal
  · cases begins

theorem takes_one {pending : Pending} {octet : UInt8} {value : Nat} (owed : pending.owed = 1)
    (low : pending.low ≤ octet.toNat) (high : octet.toNat ≤ pending.high)
    (equal : value = pending.value * 64 + (octet.toNat - 0x80)) : pending.Takes [octet] value := by
  rw [equal]
  exact .last (by omega) low high

/-- The first octet of a character above U+007F begins a character, which the others complete. -/
theorem exists_takes_of_char (c : Char) (wide : 0x80 ≤ c.toNat) (position : Nat) :
    ∃ octet pending taken, 0x80 ≤ octet.toNat ∧ begin? octet position = some pending ∧
      pending.Takes taken c.toNat := by
  have valid : c.toNat < 0xD800 ∨ 0xDFFF < c.toNat ∧ c.toNat < 0x110000 := c.valid
  have tail (number : Nat) : (UInt8.ofNat (number % 64 + 128)).toNat = number % 64 + 128 :=
    toNat_ofNat_of_lt (by omega)
  by_cases two : c.toNat < 0x800
  · have lead : (UInt8.ofNat (c.toNat / 64 + 192)).toNat = c.toNat / 64 + 192 :=
      toNat_ofNat_of_lt (by omega)
    have last := tail c.toNat
    refine ⟨UInt8.ofNat (c.toNat / 64 + 192), _, [UInt8.ofNat (c.toNat % 64 + 128)], by omega,
      if_pos (by omega), takes_one rfl ?_ ?_ ?_⟩
    all_goals
      dsimp only
      omega
  by_cases three : c.toNat < 0x10000
  · have lead : (UInt8.ofNat (c.toNat / 4096 + 224)).toNat = c.toNat / 4096 + 224 :=
      toNat_ofNat_of_lt (by omega)
    have middle := tail (c.toNat / 64)
    have last := tail c.toNat
    refine ⟨UInt8.ofNat (c.toNat / 4096 + 224), _,
      [UInt8.ofNat (c.toNat / 64 % 64 + 128), UInt8.ofNat (c.toNat % 64 + 128)], by omega,
      (if_neg (by omega)).trans (if_pos (by omega)),
      .more (by simp) ?low ?high (takes_one rfl ?_ ?_ ?_)⟩
    case low =>
      dsimp only
      split <;> omega
    case high =>
      dsimp only
      split <;> omega
    all_goals
      dsimp only [Pending.after]
      omega
  · have lead : (UInt8.ofNat (c.toNat / 262144 + 240)).toNat = c.toNat / 262144 + 240 :=
      toNat_ofNat_of_lt (by omega)
    have upper := tail (c.toNat / 4096)
    have middle := tail (c.toNat / 64)
    have last := tail c.toNat
    refine ⟨UInt8.ofNat (c.toNat / 262144 + 240), _,
      [UInt8.ofNat (c.toNat / 4096 % 64 + 128), UInt8.ofNat (c.toNat / 64 % 64 + 128),
        UInt8.ofNat (c.toNat % 64 + 128)], by omega,
      (if_neg (by omega)).trans ((if_neg (by omega)).trans (if_pos (by omega))),
      .more (by simp) ?low ?high (.more (by simp [Pending.after]) ?_ ?_ (takes_one rfl ?_ ?_ ?_))⟩
    case low =>
      dsimp only
      split <;> omega
    case high =>
      dsimp only
      split <;> omega
    all_goals
      dsimp only [Pending.after]
      omega

/-! ## Texts -/

theorem decodeFrom_ascii {octet : UInt8} (low : octet.toNat < 0x80) (position : Nat)
    (rest : List UInt8) :
    decodeFrom position none (octet :: rest) =
      (decodeFrom (position + 1) none rest).map (Char.ofNat octet.toNat :: ·) := by
  rw [decodeFrom, if_pos low]

theorem utf8EncodeChar_ascii {c : Char} (low : c.toNat < 0x80) :
    String.utf8EncodeChar c = [UInt8.ofNat c.toNat] := by
  have few : c.val.toNat ≤ 127 := Nat.le_of_lt_succ low
  unfold String.utf8EncodeChar
  exact if_pos few

theorem decodeFrom_begin {octet : UInt8} {position : Nat} {pending : Pending}
    (high : 0x80 ≤ octet.toNat) (begins : begin? octet position = some pending)
    (rest : List UInt8) :
    decodeFrom position none (octet :: rest) = decodeFrom (position + 1) (some pending) rest := by
  rw [decodeFrom, if_neg (by omega), begins]

/-- The encoding of a character is read as the character. -/
theorem decodeFrom_utf8EncodeChar (c : Char) (position : Nat) (rest : List UInt8) :
    ∃ later, decodeFrom position none (String.utf8EncodeChar c ++ rest) =
      (decodeFrom later none rest).map (c :: ·) := by
  by_cases low : c.toNat < 0x80
  · have single : (UInt8.ofNat c.toNat).toNat = c.toNat := toNat_ofNat_of_lt (by omega)
    have step := decodeFrom_ascii (single ▸ low) position rest
    rw [single, Char.ofNat_toNat] at step
    rw [utf8EncodeChar_ascii low, List.singleton_append]
    exact ⟨position + 1, step⟩
  · obtain ⟨octet, pending, taken, high, begins, takes⟩ :=
      exists_takes_of_char c (by omega) position
    have encoded := utf8EncodeChar_of_takes begins takes
    have completed := decodeFrom_of_takes takes (position + 1) rest
    rw [Char.ofNat_toNat] at encoded completed
    rw [encoded, List.cons_append, decodeFrom_begin high begins]
    exact ⟨_, completed⟩

/-- What decodes begins with the encoding of a character. -/
theorem exists_cons_of_decodeFrom {octet : UInt8} {octets : List UInt8} {position : Nat}
    {chars : List Char} (decoded : decodeFrom position none (octet :: octets) = .ok chars) :
    ∃ c rest more later, octet :: octets = String.utf8EncodeChar c ++ rest ∧
      decodeFrom later none rest = .ok more ∧ chars = c :: more := by
  by_cases low : octet.toNat < 0x80
  · rw [decodeFrom_ascii low] at decoded
    cases result : decodeFrom (position + 1) none octets with
    | error fault =>
        rw [result] at decoded
        cases decoded
    | ok more =>
        rw [result] at decoded
        cases decoded
        have valid : octet.toNat.isValidChar := Or.inl (by omega)
        have number : (Char.ofNat octet.toNat).toNat = octet.toNat := val_toNat_ofNat valid
        have encoded := utf8EncodeChar_ascii (number.symm ▸ low)
        rw [number, UInt8.ofNat_toNat] at encoded
        have front : octet :: octets =
            String.utf8EncodeChar (Char.ofNat octet.toNat) ++ octets := by
          rw [encoded, List.singleton_append]
        exact ⟨Char.ofNat octet.toNat, octets, more, position + 1, front, result, rfl⟩
  · cases begins : begin? octet position with
    | none =>
        rw [decodeFrom, if_neg low, begins] at decoded
        cases decoded
    | some pending =>
        rw [decodeFrom_begin (by omega) begins] at decoded
        obtain ⟨taken, rest, value, more, later, rfl, takes, result, rfl⟩ :=
          exists_takes_of_decodeFrom decoded
        have encoded := utf8EncodeChar_of_takes begins takes
        have front : octet :: (taken ++ rest) =
            String.utf8EncodeChar (Char.ofNat value) ++ rest := by
          rw [encoded, List.cons_append]
        exact ⟨Char.ofNat value, rest, more, later, front, result, rfl⟩

theorem decodeFrom_flatMap (chars : List Char) :
    ∀ position, decodeFrom position none (chars.flatMap String.utf8EncodeChar) = .ok chars := by
  induction chars with
  | nil =>
      intro position
      rw [List.flatMap_nil, decodeFrom]
  | cons c chars inductionHypothesis =>
      intro position
      obtain ⟨later, step⟩ :=
        decodeFrom_utf8EncodeChar c position (chars.flatMap String.utf8EncodeChar)
      rw [List.flatMap_cons, step, inductionHypothesis later]
      rfl

theorem eq_flatMap_of_decodeFrom {octets : List UInt8} :
    ∀ {position : Nat} {chars : List Char}, decodeFrom position none octets = .ok chars →
      octets = chars.flatMap String.utf8EncodeChar := by
  -- Every character takes some octets, so what is left is shorter.
  induction length : octets.length using Nat.strongRecOn generalizing octets with
  | ind count inductionHypothesis =>
      intro position chars decoded
      cases octets with
      | nil =>
          rw [decodeFrom] at decoded
          cases decoded
          rfl
      | cons octet octets =>
          obtain ⟨c, rest, more, later, split, result, rfl⟩ := exists_cons_of_decodeFrom decoded
          have shorter : rest.length < count := by
            rw [← length, split, List.length_append, String.length_utf8EncodeChar]
            have some_octet := c.utf8Size_pos
            omega
          rw [split, List.flatMap_cons, ← inductionHypothesis rest.length shorter rfl result]

/-- Octets decode to a text exactly if they are its encoding. -/
theorem decode_eq_ok_iff {octets : List UInt8} {text : String} :
    decode octets = .ok text ↔ octets.toByteArray = text.toUTF8 := by
  have encoding : text.toUTF8 = (text.toList.flatMap String.utf8EncodeChar).toByteArray := by
    have characters := String.toByteArray_ofList (l := text.toList)
    rw [String.ofList_toList] at characters
    exact characters
  rw [encoding, decode]
  constructor
  · intro decoded
    cases result : decodeFrom 0 none octets with
    | error fault =>
        rw [result] at decoded
        cases decoded
    | ok chars =>
        rw [result] at decoded
        cases decoded
        rw [String.toList_ofList, ← eq_flatMap_of_decodeFrom result]
  · intro equal
    have octetsEqual := congrArg (fun bytes => bytes.data.toList) equal
    simp only [List.toList_data_toByteArray] at octetsEqual
    rw [octetsEqual, decodeFrom_flatMap]
    exact congrArg Except.ok String.ofList_toList

/-- Octets are refused exactly if they are no valid UTF-8. -/
theorem exists_decode_eq_ok_iff {octets : List UInt8} :
    (∃ text, decode octets = .ok text) ↔ octets.toByteArray.IsValidUTF8 := by
  simp only [decode_eq_ok_iff]
  constructor
  · rintro ⟨text, equal⟩
    rw [equal]
    exact text.isValidUTF8
  · rintro ⟨chars, equal⟩
    exact ⟨String.ofList chars, equal.trans String.toByteArray_ofList.symm⟩

end TypeScaffold.Text.Utf8
