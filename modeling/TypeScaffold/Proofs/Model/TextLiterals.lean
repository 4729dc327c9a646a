import TypeScaffold.Json.Document
import TypeScaffold.Model.Basic
import TypeScaffold.Proofs.Json.Reader
import TypeScaffold.Proofs.Text.ScriptLiterals

/-!
# Literals of texts

The literal of a text is one JSON string. It ends at its last quote, because every other quote and every
backslash in it belongs to an escape, and read as a string it gives the text back, alone or in front of
any other text. So different texts have different literals.
-/

namespace TypeScaffold

namespace Text

theorem ne_of_mem_hexDigits {digit : Char} {count n : Nat} (member : digit ∈ hexDigits count n) :
    digit ≠ '"' ∧ digit ≠ '\\' := by
  have each : ∀ value < 16, hexDigit value ≠ '"' ∧ hexDigit value ≠ '\\' := by
    decide
  obtain ⟨value, small, rfl⟩ := exists_of_mem_hexDigits member
  exact each value small

/-- What stands for itself in the escaped form of a character is no quote and no backslash. -/
theorem exists_bare_escapeChar (c : Char) : ∃ front, '"' ∉ front ∧ '\\' ∉ front ∧
    ∀ rest, bare (escapeChar c ++ rest) = front ++ bare rest := by
  rcases escapeChar_cases c with ⟨letter, _, equal, _⟩ | ⟨_, equal⟩ | ⟨_, noQuote, noBackslash, equal⟩
  · refine ⟨[], List.not_mem_nil, List.not_mem_nil, fun rest => ?_⟩
    rw [equal]
    exact bare_escape letter rest
  · have noBackslash : '\\' ∉ hexDigits 4 c.toNat := fun there => (ne_of_mem_hexDigits there).2 rfl
    refine ⟨hexDigits 4 c.toNat, fun there => (ne_of_mem_hexDigits there).1 rfl, noBackslash,
      fun rest => ?_⟩
    rw [equal]
    exact (bare_escape 'u' _).trans (bare_append noBackslash rest)
  · refine ⟨[c], ?_, ?_, fun rest => ?_⟩
    · rw [List.mem_singleton]
      exact Ne.symm noQuote
    · rw [List.mem_singleton]
      exact Ne.symm noBackslash
    · rw [equal]
      exact bare_cons noBackslash rest

theorem notMem_bare_flatMap (content : List Char) :
    '"' ∉ bare (content.flatMap escapeChar) ∧ '\\' ∉ bare (content.flatMap escapeChar) := by
  induction content with
  | nil => exact ⟨List.not_mem_nil, List.not_mem_nil⟩
  | cons c content inductionHypothesis =>
      obtain ⟨front, noQuote, noBackslash, written⟩ := exists_bare_escapeChar c
      rw [List.flatMap_cons, written, List.mem_append, List.mem_append, not_or, not_or]
      exact ⟨⟨noQuote, inductionHypothesis.1⟩, ⟨noBackslash, inductionHypothesis.2⟩⟩

end Text

namespace Scalar

theorem toList_code_text (content : String) :
    (Scalar.text content).code.toList =
      '"' :: (content.toList.flatMap Text.escapeChar ++ ['"']) :=
  Text.toList_doubleQuoted content

/-- A document that consists of the literal of a text is read as the text. -/
theorem readDocument_code_text (content : String) :
    Json.readDocument (Scalar.text content).code = .ok (.text content) := by
  have room : Json.HasRoom .document [] (Json.text content).nesting := by
    intro limit limited
    cases limited
  have unmarked : ((Scalar.text content).code.toList).head? ≠ some (Char.ofNat 0xFEFF) := by
    rw [toList_code_text]
    exact fun marked => absurd (Option.some.inj marked) (by decide)
  have whole : (Json.text content).pretty = (Scalar.text content).code := by
    rw [Json.pretty, Json.prettyAt, code]
  have read := @Json.read_pretty .document (.text content) trivial trivial room
  rw [whole] at read
  rw [Json.readDocument, if_neg unmarked, read]
  rfl

theorem code_text_injective : Function.Injective (fun content => (Scalar.text content).code) := by
  intro content other same
  have equal : Except.ok (ε := Json.DocumentFault) (Json.text content) = .ok (.text other) := by
    rw [← readDocument_code_text content, ← readDocument_code_text other]
    exact congrArg Json.readDocument same
  exact Json.text.inj (Except.ok.inj equal)

/-- The literal of a text is one JSON string: between its quotes there is no control character and
outside of escapes neither a quote nor a backslash. As a document it is the text, in front of any other
text it is read as the text with the rest behind it, and different texts have different literals. -/
theorem code_text_round_trip :
    (∀ content : String,
      (∃ body, (Scalar.text content).code.toList = '"' :: (body ++ ['"']) ∧
        '"' ∉ Text.bare body ∧ '\\' ∉ Text.bare body ∧ ∀ c ∈ body, 32 ≤ c.toNat) ∧
      Json.readDocument (Scalar.text content).code = .ok (.text content) ∧
      ∀ rest, Json.quoted? ((Scalar.text content).code.toList ++ rest) =
        some (content.toList, rest)) ∧
    Function.Injective (fun content => (Scalar.text content).code) := by
  refine ⟨fun content => ⟨?_, readDocument_code_text content, fun rest => ?_⟩, code_text_injective⟩
  · obtain ⟨noQuote, noBackslash⟩ := Text.notMem_bare_flatMap content.toList
    refine ⟨_, toList_code_text content, noQuote, noBackslash, fun c member => ?_⟩
    obtain ⟨source, _, written⟩ := List.mem_flatMap.mp member
    exact Text.le_toNat_of_mem_escapeChar written
  · rw [toList_code_text]
    exact Json.quoted?_doubleQuotedChars content.toList rest

end Scalar

end TypeScaffold
