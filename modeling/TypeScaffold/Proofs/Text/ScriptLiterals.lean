import Mathlib.Data.List.Basic
import TypeScaffold.Proofs.Text.SingleQuoted

/-!
# Literals of a script

A backslash in a literal begins an escape together with the character behind it, and the literal ends at
the first quote outside the escapes. It has to end on its line. Reading a single-quoted text as such a
literal gives the text back, unless the text holds a carriage return: that is the one character that is
written as it is though a literal may not hold it.
-/

namespace TypeScaffold.Text

/-! ## Characters outside of escapes -/

/-- The characters that stand for themselves: those outside the escapes, each of which is a backslash
with the character behind it. -/
def bare : List Char → List Char
  | '\\' :: _ :: rest => bare rest
  | c :: rest => c :: bare rest
  | [] => []

theorem bare_escape (letter : Char) (rest : List Char) : bare ('\\' :: letter :: rest) = bare rest :=
  rfl

theorem bare_cons {c : Char} (plain : c ≠ '\\') (rest : List Char) :
    bare (c :: rest) = c :: bare rest := by
  rw [bare]
  rintro other others rfl
  exact absurd rfl plain

/-- Characters none of which is a backslash stand for themselves. -/
theorem bare_append {chars : List Char} (plain : '\\' ∉ chars) (rest : List Char) :
    bare (chars ++ rest) = chars ++ bare rest := by
  induction chars with
  | nil => rfl
  | cons c chars inductionHypothesis =>
      obtain ⟨other, others⟩ := List.ne_and_not_mem_of_not_mem_cons plain
      rw [List.cons_append, bare_cons (Ne.symm other), inductionHypothesis others, List.cons_append]

theorem bare_escapeSingle (c : Char) : ∃ front, '\'' ∉ front ∧ '\\' ∉ front ∧
    ∀ rest, bare (escapeSingle c ++ rest) = front ++ bare rest := by
  unfold escapeSingle
  split
  · exact ⟨[], List.not_mem_nil, List.not_mem_nil, fun rest => bare_escape '\\' rest⟩
  rename_i noBackslash
  split
  · exact ⟨[], List.not_mem_nil, List.not_mem_nil, fun rest => bare_escape '\'' rest⟩
  rename_i noQuote
  split
  · exact ⟨[], List.not_mem_nil, List.not_mem_nil, fun rest => bare_escape 'n' rest⟩
  · refine ⟨[c], ?_, ?_, fun rest => bare_cons noBackslash rest⟩
    · rw [List.mem_singleton]
      exact Ne.symm noQuote
    · rw [List.mem_singleton]
      exact Ne.symm noBackslash

/-- Every quote and every backslash of an escaped text belongs to an escape. -/
theorem notMem_bare_escapeSingle (content : List Char) :
    '\'' ∉ bare (content.flatMap escapeSingle) ∧ '\\' ∉ bare (content.flatMap escapeSingle) := by
  induction content with
  | nil => exact ⟨List.not_mem_nil, List.not_mem_nil⟩
  | cons c content inductionHypothesis =>
      obtain ⟨front, noQuote, noBackslash, written⟩ := bare_escapeSingle c
      rw [List.flatMap_cons, written, List.mem_append, List.mem_append, not_or, not_or]
      exact ⟨⟨noQuote, inductionHypothesis.1⟩, ⟨noBackslash, inductionHypothesis.2⟩⟩

/-! ## Reading a literal -/

/-- The character for which a letter behind a backslash stands. Escapes by number are not read, nor is a
backslash at the end of a line, which stands for nothing. -/
def escapedLetter? : Char → Option Char
  | 'b' => some '\x08'
  | 't' => some '\t'
  | 'n' => some '\n'
  | 'v' => some '\x0b'
  | 'f' => some '\x0c'
  | 'r' => some '\r'
  | 'u' | 'x' | '\n' | '\r' | '\u2028' | '\u2029' => none
  | letter => if letter.isDigit then none else some letter

/-- What a literal holds up to its closing quote, and what stands behind that. The opening quote has
been read. A line feed or a carriage return breaks the literal off. -/
def readLiteralBody? : List Char → Option (List Char × List Char)
  | [] => none
  | '\'' :: rest => some ([], rest)
  | '\\' :: letter :: rest =>
      (escapedLetter? letter).bind (fun stands =>
        (readLiteralBody? rest).map (fun (content, behind) => (stands :: content, behind)))
  | c :: rest =>
      if c = '\\' ∨ c = '\n' ∨ c = '\r' then none
      else (readLiteralBody? rest).map (fun (content, behind) => (c :: content, behind))

/-- The text for which a single-quoted literal stands, and what stands behind the literal. -/
def readLiteral? : List Char → Option (List Char × List Char)
  | '\'' :: rest => readLiteralBody? rest
  | _ => none

theorem readLiteralBody?_cons {c : Char} (noQuote : c ≠ '\'') (noBackslash : c ≠ '\\')
    (rest : List Char) :
    readLiteralBody? (c :: rest) =
      if c = '\n' ∨ c = '\r' then none
      else (readLiteralBody? rest).map (fun (content, behind) => (c :: content, behind)) := by
  rw [readLiteralBody?]
  · simp only [noBackslash, false_or]
  · exact noQuote
  · rintro letter others rfl
    exact absurd rfl noBackslash

theorem readLiteralBody?_return (rest : List Char) : readLiteralBody? ('\r' :: rest) = none := by
  rw [readLiteralBody?_cons (by decide) (by decide), if_pos (Or.inr rfl)]

/-- Reading what is written for a character gives the character, unless it is a carriage return. -/
theorem readLiteralBody?_escapeSingle {c : Char} (noReturn : c ≠ '\r') (rest : List Char) :
    readLiteralBody? (escapeSingle c ++ rest) =
      (readLiteralBody? rest).map (fun (content, behind) => (c :: content, behind)) := by
  by_cases backslash : c = '\\'
  · subst backslash
    rfl
  by_cases quote : c = '\''
  · subst quote
    rfl
  by_cases lineFeed : c = '\n'
  · subst lineFeed
    rfl
  rw [escapeSingle, if_neg backslash, if_neg quote, if_neg lineFeed, List.singleton_append,
    readLiteralBody?_cons quote backslash, if_neg (not_or.mpr ⟨lineFeed, noReturn⟩)]

theorem readLiteralBody?_flatMap (content behind : List Char) :
    readLiteralBody? (content.flatMap escapeSingle ++ '\'' :: behind) =
      if '\r' ∈ content then none else some (content, behind) := by
  induction content with
  | nil => rfl
  | cons c content inductionHypothesis =>
      rw [List.flatMap_cons, List.append_assoc]
      by_cases isReturn : c = '\r'
      · subst isReturn
        rw [if_pos List.mem_cons_self]
        exact readLiteralBody?_return _
      · rw [readLiteralBody?_escapeSingle isReturn, inductionHypothesis]
        by_cases later : '\r' ∈ content
        · rw [if_pos later, if_pos (List.mem_cons_of_mem c later)]
          rfl
        · have absent : '\r' ∉ c :: content :=
            List.not_mem_cons_of_ne_of_not_mem (Ne.symm isReturn) later
          rw [if_neg later, if_neg absent]
          rfl

/-- A single-quoted text is read back, whatever stands behind it, just when it holds no carriage
return. -/
theorem readLiteral?_singleQuoted (text : String) (behind : List Char) :
    readLiteral? ((singleQuoted text).toList ++ behind) =
      if '\r' ∈ text.toList then none else some (text.toList, behind) := by
  rw [toList_singleQuoted, singleQuotedChars, List.cons_append, List.append_assoc]
  exact readLiteralBody?_flatMap text.toList behind

/-! ## What is written -/

/-- The characters with every occurrence of one replaced. -/
def replaceChar (mark : Char) (replacement chars : List Char) : List Char :=
  chars.flatMap (fun c => if c = mark then replacement else [c])

/-- Escaping each character is replacing the backslashes, then the quotes, then the line feeds. -/
theorem flatMap_escapeSingle (chars : List Char) :
    chars.flatMap escapeSingle =
      replaceChar '\n' ['\\', 'n'] (replaceChar '\'' ['\\', '\'']
        (replaceChar '\\' ['\\', '\\'] chars)) := by
  rw [replaceChar, replaceChar, replaceChar, List.flatMap_assoc, List.flatMap_assoc]
  refine List.flatMap_congr (fun c _ => ?_)
  by_cases backslash : c = '\\'
  · subst backslash
    rfl
  by_cases quote : c = '\''
  · subst quote
    rfl
  simp [escapeSingle, backslash, quote]

theorem newline_notMem_flatMap_escapeSingle (content : List Char) :
    '\n' ∉ content.flatMap escapeSingle := by
  intro there
  obtain ⟨c, _, written⟩ := List.mem_flatMap.mp there
  exact newline_notMem_escapeSingle c written

theorem return_mem_escapeSingle_iff {c : Char} : '\r' ∈ escapeSingle c ↔ c = '\r' := by
  unfold escapeSingle
  split
  · rename_i backslash
    subst backslash
    decide
  split
  · rename_i quote
    subst quote
    decide
  split
  · rename_i lineFeed
    subst lineFeed
    decide
  · rw [List.mem_singleton, eq_comm]

/-- A carriage return is written as it is. -/
theorem return_mem_flatMap_escapeSingle_iff {content : List Char} :
    '\r' ∈ content.flatMap escapeSingle ↔ '\r' ∈ content := by
  simp only [List.mem_flatMap, return_mem_escapeSingle_iff, exists_eq_right]

end TypeScaffold.Text
