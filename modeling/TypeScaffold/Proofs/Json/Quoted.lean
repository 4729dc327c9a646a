import TypeScaffold.Json.Lexeme
import TypeScaffold.Text.Quoted

/-!
# Quoted texts

A double-quoted text holds no control character, and read as a string of either dialect it gives the
text back, whatever comes behind it.
-/

namespace TypeScaffold

open Json

namespace Text

theorem toList_doubleQuoted (text : String) :
    (doubleQuoted text).toList = doubleQuotedChars text.toList :=
  String.toList_ofList

/-- A character inside double quotes is escaped by a letter, by its number, or not at all. -/
theorem escapeChar_cases (c : Char) :
    (∃ letter ∈ ['"', '\\', 'n', 'r', 't', 'b', 'f'],
      escapeChar c = ['\\', letter] ∧ escaped? letter = some c) ∨
    (c.toNat < 32 ∧ escapeChar c = '\\' :: 'u' :: hexDigits 4 c.toNat) ∨
    (32 ≤ c.toNat ∧ c ≠ '"' ∧ c ≠ '\\' ∧ escapeChar c = [c]) := by
  have numbered {code : Nat} (equal : c.toNat = code) : c = Char.ofNat code := by
    rw [← equal, Char.ofNat_toNat]
  by_cases quote : c = '"'
  · subst quote
    exact Or.inl ⟨'"', by decide, rfl, rfl⟩
  by_cases backslash : c = '\\'
  · subst backslash
    exact Or.inl ⟨'\\', by decide, rfl, rfl⟩
  by_cases lineFeed : c = '\n'
  · subst lineFeed
    exact Or.inl ⟨'n', by decide, rfl, rfl⟩
  by_cases carriageReturn : c = '\r'
  · subst carriageReturn
    exact Or.inl ⟨'r', by decide, rfl, rfl⟩
  by_cases tab : c = '\t'
  · subst tab
    exact Or.inl ⟨'t', by decide, rfl, rfl⟩
  by_cases backspace : c.toNat = 8
  · obtain rfl := numbered backspace
    exact Or.inl ⟨'b', by decide, rfl, rfl⟩
  by_cases formFeed : c.toNat = 12
  · obtain rfl := numbered formFeed
    exact Or.inl ⟨'f', by decide, rfl, rfl⟩
  rw [escapeChar, if_neg quote, if_neg backslash, if_neg lineFeed, if_neg carriageReturn,
    if_neg tab, if_neg backspace, if_neg formFeed]
  by_cases control : c.toNat < 32
  · exact Or.inr (Or.inl ⟨control, if_pos control⟩)
  · exact Or.inr (Or.inr ⟨Nat.le_of_not_lt control, quote, backslash, if_neg control⟩)

/-! ## Characters -/

theorem le_toNat_hexDigit : ∀ n < 16, 32 ≤ (hexDigit n).toNat := by
  decide

theorem exists_of_mem_hexDigits {digit : Char} : ∀ {count n : Nat},
    digit ∈ hexDigits count n → ∃ value < 16, digit = hexDigit value
  | count + 1, n, member => by
      rw [hexDigits] at member
      rcases List.mem_append.mp member with earlier | last
      · exact exists_of_mem_hexDigits earlier
      · exact ⟨n % 16, Nat.mod_lt n (by decide), List.mem_singleton.mp last⟩

/-- What is written for a character inside double quotes holds no control character. -/
theorem le_toNat_of_mem_escapeChar {c written : Char} (member : written ∈ escapeChar c) :
    32 ≤ written.toNat := by
  have letters : ∀ letter ∈ ['\\', 'u', '"', 'n', 'r', 't', 'b', 'f'], 32 ≤ letter.toNat := by
    simp only [List.mem_cons, List.not_mem_nil, or_false, forall_eq_or_imp, forall_eq]
    decide
  rcases escapeChar_cases c with ⟨letter, listed, equal, _⟩ | ⟨_, equal⟩ | ⟨high, _, _, equal⟩
  · rw [equal] at member
    simp only [List.mem_cons, List.not_mem_nil, or_false] at listed member
    exact letters written (by simp only [List.mem_cons, List.not_mem_nil, or_false]; grind)
  · rw [equal] at member
    rcases List.mem_cons.mp member with rfl | later
    · exact letters _ (by decide)
    rcases List.mem_cons.mp later with rfl | digit
    · exact letters _ (by decide)
    · obtain ⟨value, small, rfl⟩ := exists_of_mem_hexDigits digit
      exact le_toNat_hexDigit value small
  · rw [equal] at member
    obtain rfl := List.mem_singleton.mp member
    exact high

theorem le_toNat_of_mem_doubleQuoted {text : String} {c : Char}
    (member : c ∈ (doubleQuoted text).toList) : 32 ≤ c.toNat := by
  have quote : 32 ≤ '"'.toNat := by decide
  rw [toList_doubleQuoted, doubleQuotedChars] at member
  rcases List.mem_cons.mp member with rfl | later
  · exact quote
  rcases List.mem_append.mp later with content | last
  · obtain ⟨source, _, written⟩ := List.mem_flatMap.mp content
    exact le_toNat_of_mem_escapeChar written
  · exact List.mem_singleton.mp last ▸ quote

theorem newline_notMem_doubleQuoted (text : String) : '\n' ∉ (doubleQuoted text).toList := by
  intro there
  exact absurd (le_toNat_of_mem_doubleQuoted there) (by decide)

end Text

namespace Json

open Text (escapeChar hexDigits)

/-! ## Reading -/

theorem fourDigits_hexDigits {number : Nat} (small : number < 32) :
    ∃ a b c d, hexDigits 4 number = [a, b, c, d] ∧ fourDigits a b c d = .ok number := by
  have each : ∀ number < 32, (fourDigits (Text.hexDigit (number / 16 / 16 / 16 % 16))
      (Text.hexDigit (number / 16 / 16 % 16)) (Text.hexDigit (number / 16 % 16))
      (Text.hexDigit (number % 16))).toOption = some number := by
    decide
  have read := each number small
  refine ⟨_, _, _, _, rfl, ?_⟩
  cases digits : fourDigits (Text.hexDigit (number / 16 / 16 / 16 % 16))
      (Text.hexDigit (number / 16 / 16 % 16)) (Text.hexDigit (number / 16 % 16))
      (Text.hexDigit (number % 16)) with
  | error place => rw [digits] at read; cases read
  | ok value => rw [digits] at read; rw [Option.some.inj read]

variable {dialect : Dialect} {offset : Nat} {rest : List Char}

/-- What is read behind a text, with the text in front. -/
def behind (front : List Char) (result : Except LexicalFault (List Char × Nat)) :
    Except LexicalFault (List Char × Nat) :=
  result.map (fun (chars, taken) => (front ++ chars, taken))

theorem behind_behind (front middle : List Char)
    (result : Except LexicalFault (List Char × Nat)) :
    behind front (behind middle result) = behind (front ++ middle) result := by
  cases result with
  | error fault => rfl
  | ok read =>
      obtain ⟨chars, taken⟩ := read
      exact congrArg (fun chars => Except.ok (chars, taken))
        (List.append_assoc front middle chars).symm

theorem scanText_letter {letter c : Char} (listed : letter ∈ ['"', '\\', 'n', 'r', 't', 'b', 'f'])
    (stands : escaped? letter = some c) :
    scanText dialect offset none ('\\' :: letter :: rest) =
      behind [c] (scanText dialect (offset + 2) none rest) := by
  have other : letter ≠ 'u' := by
    rintro rfl
    revert listed
    decide
  rw [scanText]
  · simp [stands, behind]
  · intro a b c d others _ equal
    exact absurd (List.cons.inj equal).1 other
  · intro others _ equal
    exact absurd (List.cons.inj equal).1 other

theorem scanText_number {number : Nat} (small : number < 32) (more : rest ≠ []) :
    scanText dialect offset none ('\\' :: 'u' :: hexDigits 4 number ++ rest) =
      behind [Char.ofNat number] (scanText dialect (offset + 6) none rest) := by
  obtain ⟨a, b, c, d, digits, read⟩ := fourDigits_hexDigits small
  have filled : rest.isEmpty = false := List.isEmpty_eq_false_iff.mpr more
  have low : isHighSurrogate number = false ∧ isLowSurrogate number = false := by
    simp only [isHighSurrogate, isLowSurrogate, Bool.and_eq_false_imp, decide_eq_true_eq,
      decide_eq_false_iff_not]
    omega
  rw [digits]
  change scanText dialect offset none ('\\' :: 'u' :: a :: b :: c :: d :: rest) = _
  rw [scanText, read]
  simp only [filled, low, Bool.false_eq_true, if_false]
  rfl

theorem scanText_plain {c : Char} (high : 32 ≤ c.toNat) (noQuote : c ≠ '"')
    (noBackslash : c ≠ '\\') :
    scanText dialect offset none (c :: rest) =
      behind [c] (scanText dialect (offset + 1) none rest) := by
  rw [scanText]
  · simp [noQuote, noBackslash, Nat.not_lt_of_le high, behind]
  · intro a b c d others equal _
    exact noBackslash equal
  · intro others equal _
    exact noBackslash equal

/-- Reading what is written for a character gives the character. -/
theorem scanText_escapeChar (c : Char) (more : rest ≠ []) :
    scanText dialect offset none (escapeChar c ++ rest) =
      behind [c] (scanText dialect (offset + (escapeChar c).length) none rest) := by
  rcases Text.escapeChar_cases c with
    ⟨letter, listed, equal, stands⟩ | ⟨control, equal⟩ | ⟨high, noQuote, noBackslash, equal⟩
  · rw [equal]
    exact scanText_letter listed stands
  · have step := @scanText_number dialect offset rest c.toNat control more
    obtain ⟨_, _, _, _, digits, _⟩ := fourDigits_hexDigits control
    rw [Char.ofNat_toNat] at step
    rw [equal, step, digits]
    rfl
  · rw [equal]
    exact scanText_plain high noQuote noBackslash

/-- Reading the content of a quoted text gives the content, and goes on behind it. -/
theorem scanText_flatMap (content : List Char) (more : rest ≠ []) :
    scanText dialect offset none (content.flatMap escapeChar ++ rest) =
      behind content
        (scanText dialect (offset + (content.flatMap escapeChar).length) none rest) := by
  induction content generalizing offset with
  | nil =>
      rw [List.flatMap_nil, List.nil_append, List.length_nil, Nat.add_zero]
      cases scanText dialect offset none rest <;> rfl
  | cons c content inductionHypothesis =>
      have moreToo : content.flatMap escapeChar ++ rest ≠ [] :=
        List.append_ne_nil_of_right_ne_nil _ more
      rw [List.flatMap_cons, List.append_assoc, scanText_escapeChar c moreToo, inductionHypothesis,
        behind_behind, List.length_append, Nat.add_assoc offset]
      rfl

theorem scanText_quote :
    scanText dialect offset none ('"' :: rest) = .ok ([], offset + 1) := by
  rw [scanText]
  · rfl
  · intro a b c d others equal
    cases equal
  · intro others equal
    cases equal

/-- The content of a quoted text is read up to the closing quote. -/
theorem scanText_quoted (dialect : Dialect) (content : List Char) (offset : Nat)
    (rest : List Char) :
    scanText dialect offset none (content.flatMap escapeChar ++ '"' :: rest) =
      .ok (content, offset + (content.flatMap escapeChar).length + 1) := by
  rw [scanText_flatMap content (List.cons_ne_nil '"' rest), scanText_quote]
  exact congrArg (fun chars => Except.ok (chars, _)) (List.append_nil content)

theorem scanText_lineFeed :
    scanText .document offset none ('\n' :: rest) = .error ⟨.control, offset⟩ := by
  rw [scanText]
  · rfl
  · intro a b c d others equal
    cases equal
  · intro others equal
    cases equal

/-! ## Quoted texts in front -/

/-- The string of a document that a text begins with, and what stands behind it. -/
def quoted? : List Char → Option (List Char × List Char)
  | '"' :: rest =>
      match scanText .document 1 none rest with
      | .ok (content, taken) => some (content, rest.drop (taken - 1))
      | .error _ => none
  | _ => none

theorem length_lt_of_quoted? {chars content behind : List Char}
    (read : quoted? chars = some (content, behind)) : behind.length < chars.length := by
  unfold quoted? at read
  split at read
  · split at read
    · obtain ⟨rfl, rfl⟩ := Prod.mk.inj (Option.some.inj read)
      rw [List.length_drop, List.length_cons]
      exact Nat.lt_succ_of_le (Nat.sub_le _ _)
    · cases read
  · cases read

/-- A quoted text is read back, whatever comes behind it. -/
theorem quoted?_doubleQuotedChars (content rest : List Char) :
    quoted? (Text.doubleQuotedChars content ++ rest) = some (content, rest) := by
  have whole : Text.doubleQuotedChars content ++ rest =
      '"' :: (content.flatMap escapeChar ++ '"' :: rest) := by
    rw [Text.doubleQuotedChars, List.cons_append, List.append_assoc]
    rfl
  have taken : 1 + (content.flatMap escapeChar).length + 1 - 1 =
      (content.flatMap escapeChar ++ ['"']).length := by
    rw [List.length_append, List.length_singleton]
    omega
  have split : content.flatMap escapeChar ++ '"' :: rest =
      content.flatMap escapeChar ++ ['"'] ++ rest := by
    rw [List.append_assoc]
    rfl
  rw [whole, quoted?, scanText_quoted]
  dsimp only
  rw [taken, split, List.drop_left]

/-- A string that a line feed breaks up is not read. -/
theorem quoted?_lineFeed (content rest : List Char) :
    quoted? ('"' :: (content.flatMap escapeChar ++ '\n' :: rest)) = none := by
  rw [quoted?, scanText_flatMap content (List.cons_ne_nil '\n' rest), scanText_lineFeed]
  rfl

end Json

end TypeScaffold
