import TypeScaffold.Proofs.Json.Quoted
import TypeScaffold.Proofs.Text.Layout

/-!
# Attributes and contents that are laid out

An attribute holds its text as it is or, if it has a double quote, as a string of a document in braces.
Laying out the attribute keeps the text just when none of its characters ends a line, but for those that
the string escapes.
-/

namespace TypeScaffold.Text

/-- Laying out an attribute for the text keeps it: no character of the text ends a line, except that
in a string the controls are escaped. -/
def IsSteady (text : String) : Prop :=
  ∀ c ∈ text.toList, endsLine c = true → '"' ∈ text.toList ∧ c.toNat < 32

instance (text : String) : Decidable (IsSteady text) :=
  List.decidableBAll _ text.toList

/-- The text of the attribute that a text begins with, and what stands behind it. -/
def attribute? : List Char → Option (List Char × List Char)
  | '"' :: rest => splitFirst? '"' rest
  | '{' :: rest =>
      match Json.quoted? rest with
      | some (value, '}' :: behind) => some (value, behind)
      | _ => none
  | _ => none

/-- What stands behind a string whose opening quote is passed. -/
def skipQuoted : List Char → List Char
  | [] => []
  | '\\' :: _ :: rest => skipQuoted rest
  | '"' :: rest => rest
  | _ :: rest => skipQuoted rest

/-- What stands behind the content of an element. An angle bracket inside a string does not end it. -/
def skipContent : List Char → List Char
  | '{' :: '"' :: rest => (skipQuoted rest).dropWhile (fun c => c != '<')
  | chars => chars.dropWhile (fun c => c != '<')

/-! ## Escaped characters -/

/-- A line end that is no control is written as it is. -/
theorem escapeChar_of_endsLine {c : Char} (ends : endsLine c = true) (high : 32 ≤ c.toNat) :
    escapeChar c = [c] := by
  have other {special : Char} (apart : endsLine special = false ∨ special.toNat < 32) :
      c ≠ special := by
    rintro rfl
    rcases apart with plain | low
    · rw [ends] at plain
      cases plain
    · exact absurd high (Nat.not_le_of_lt low)
  rw [escapeChar, if_neg (other (by decide)), if_neg (other (by decide)),
    if_neg (other (by decide)), if_neg (other (by decide)), if_neg (other (by decide)),
    if_neg (by omega), if_neg (by omega), if_neg (by omega)]

theorem ne_return {c : Char} (high : 32 ≤ c.toNat) : c ≠ '\r' := by
  rintro rfl
  exact absurd high (by decide)

/-- Nothing that is written for a character ends a line, unless the character is written as it is. -/
theorem endsLine_of_mem_escapeChar {c written : Char}
    (escaped : endsLine c = true → c.toNat < 32) (member : written ∈ escapeChar c) :
    endsLine written = false := by
  have letters : ∀ letter ∈ ['\\', 'u', '"', 'n', 'r', 't', 'b', 'f'],
      endsLine letter = false := by
    simp only [List.mem_cons, List.not_mem_nil, or_false, forall_eq_or_imp, forall_eq]
    decide
  have digits : ∀ value < 16, endsLine (hexDigit value) = false := by decide
  rcases escapeChar_cases c with ⟨letter, listed, equal, _⟩ | ⟨_, equal⟩ | ⟨high, _, _, equal⟩
  · rw [equal] at member
    simp only [List.mem_cons, List.not_mem_nil, or_false] at listed member
    exact letters written (by simp only [List.mem_cons, List.not_mem_nil, or_false]; grind)
  · rw [equal] at member
    rcases List.mem_cons.mp member with rfl | later
    · exact letters _ (by decide)
    rcases List.mem_cons.mp later with rfl | digit
    · exact letters _ (by decide)
    · obtain ⟨value, small, rfl⟩ := exists_of_mem_hexDigits digit
      exact digits value small
  · rw [equal] at member
    obtain rfl := List.mem_singleton.mp member
    refine Bool.eq_false_iff.mpr (fun ends => ?_)
    exact absurd high (Nat.not_le_of_lt (escaped ends))

/-! ## Attributes -/

section Laid

variable {rest placed : List Char}

theorem splitFirst?_append {mark : Char} {front : List Char} (fresh : mark ∉ front)
    (behind : List Char) : splitFirst? mark (front ++ mark :: behind) = some (front, behind) := by
  induction front with
  | nil => exact if_pos rfl
  | cons c front inductionHypothesis =>
      have other : c ≠ mark := fun equal => fresh (equal ▸ List.mem_cons_self)
      have later := inductionHypothesis (fun there => fresh (List.mem_cons_of_mem c there))
      rw [List.cons_append, splitFirst?, if_neg other, later]
      rfl

/-- A text between quotes is read with the line ends that it has got. -/
theorem attribute?_raw {text : List Char} (unquoted : '"' ∉ text)
    (laid : LaidOut ('"' :: (text ++ '"' :: rest)) placed) :
    ∃ value behind, attribute? placed = some (value, behind) ∧ LaidOut rest behind ∧
      (value = text ↔ ∀ c ∈ text, endsLine c = false) := by
  obtain ⟨_, rfl, inside⟩ := laid.of_cons rfl
  obtain ⟨value, behind, rfl, between, later⟩ := inside.split rfl
  have fresh : '"' ∉ value := between.notMem_front rfl (by decide) (by decide) unquoted
  exact ⟨value, behind, splitFirst?_append fresh behind, later, between.eq_iff_oneLine rfl⟩

/-- A string whose line ends are escaped is read back. -/
theorem attribute?_braced {text : List Char}
    (escaped : ∀ c ∈ text, endsLine c = true → c.toNat < 32)
    (laid : LaidOut ('{' :: (doubleQuotedChars text ++ '}' :: rest)) placed) :
    ∃ behind, attribute? placed = some (text, behind) ∧ LaidOut rest behind := by
  have plain : ∀ c ∈ doubleQuotedChars text, endsLine c = false := by
    intro c member
    rcases List.mem_cons.mp member with rfl | later
    · rfl
    rcases List.mem_append.mp later with content | last
    · obtain ⟨source, there, written⟩ := List.mem_flatMap.mp content
      exact endsLine_of_mem_escapeChar (escaped source there) written
    · obtain rfl := List.mem_singleton.mp last
      rfl
  obtain ⟨_, rfl, inside⟩ := laid.of_cons rfl
  obtain ⟨_, rfl, closing⟩ := inside.of_append plain
  obtain ⟨behind, rfl, later⟩ := closing.of_cons rfl
  refine ⟨behind, ?_, later⟩
  simp only [attribute?, Json.quoted?_doubleQuotedChars]

/-- A line end that is written as it is breaks what is written for a text. -/
theorem exists_broken : ∀ {text placed : List Char},
    (∃ c ∈ text, endsLine c = true ∧ 32 ≤ c.toNat) →
    LaidOut (text.flatMap escapeChar ++ rest) placed →
    ∃ content behind : List Char, placed = content.flatMap escapeChar ++ '\n' :: behind
  | [], _, ⟨_, member, _⟩, _ => nomatch member
  | first :: text, placed, broken, laid => by
      rw [List.flatMap_cons, List.append_assoc] at laid
      -- What is written for the first character is kept as a whole unless it ends a line itself.
      by_cases escaped : endsLine first = true → first.toNat < 32
      · obtain ⟨placedRest, rfl, later⟩ :=
          laid.of_append (fun c member => endsLine_of_mem_escapeChar escaped member)
        have more : ∃ c ∈ text, endsLine c = true ∧ 32 ≤ c.toNat := by
          obtain ⟨c, member, ends, high⟩ := broken
          rcases List.mem_cons.mp member with rfl | inText
          · exact absurd high (Nat.not_le_of_lt (escaped ends))
          · exact ⟨c, inText, ends, high⟩
        obtain ⟨content, behind, rfl⟩ := exists_broken more later
        refine ⟨first :: content, behind, ?_⟩
        rw [List.flatMap_cons, List.append_assoc]
      · obtain ⟨ends, high⟩ := Classical.not_imp.mp escaped
        rw [Nat.not_lt] at high
        rw [escapeChar_of_endsLine ends high] at laid
        obtain ⟨width, placedRest, rfl, _⟩ := laid.of_lineEnd ends (ne_return high)
        exact ⟨[], _, rfl⟩

/-- A string with another line end is broken up and cannot be read. -/
theorem attribute?_broken {text : List Char} (broken : ∃ c ∈ text, endsLine c = true ∧ 32 ≤ c.toNat)
    (laid : LaidOut ('{' :: (doubleQuotedChars text ++ '}' :: rest)) placed) :
    attribute? placed = none := by
  obtain ⟨_, rfl, quoted⟩ := laid.of_cons rfl
  rw [doubleQuotedChars, List.cons_append, List.append_assoc] at quoted
  obtain ⟨_, rfl, inside⟩ := quoted.of_cons rfl
  obtain ⟨content, behind, rfl⟩ := exists_broken broken inside
  simp only [attribute?, Json.quoted?_lineFeed]

/-- What is read is the text just when it is steady, and then the rest is laid out behind it. -/
def ReadsBack (read : Option (List Char × List Char)) (text : String) (rest : List Char) : Prop :=
  (IsSteady text ∧ ∃ behind, read = some (text.toList, behind) ∧ LaidOut rest behind) ∨
    (¬ IsSteady text ∧ ∀ behind, read ≠ some (text.toList, behind))

theorem readsBack_braced {text : String} (quoted : '"' ∈ text.toList)
    (laid : LaidOut ('{' :: (doubleQuotedChars text.toList ++ '}' :: rest)) placed) :
    ReadsBack (attribute? placed) text rest := by
  by_cases escaped : ∀ c ∈ text.toList, endsLine c = true → c.toNat < 32
  · exact Or.inl ⟨fun c member ends => ⟨quoted, escaped c member ends⟩,
      attribute?_braced escaped laid⟩
  · refine Or.inr ⟨fun steady => escaped (fun c member ends => (steady c member ends).2), ?_⟩
    simp only [not_forall, exists_prop, Nat.not_lt] at escaped
    intro behind read
    rw [attribute?_broken escaped laid] at read
    cases read

theorem readsBack_raw {text : String} (unquoted : '"' ∉ text.toList)
    (laid : LaidOut ('"' :: (text.toList ++ '"' :: rest)) placed) :
    ReadsBack (attribute? placed) text rest := by
  obtain ⟨value, behind, read, later, kept⟩ := attribute?_raw unquoted laid
  have steady : IsSteady text ↔ ∀ c ∈ text.toList, endsLine c = false := by
    refine forall₂_congr (fun c _ => ?_)
    simp only [unquoted, false_and, imp_false, Bool.not_eq_true]
  rw [ReadsBack, steady]
  by_cases oneLine : ∀ c ∈ text.toList, endsLine c = false
  · obtain rfl := kept.mpr oneLine
    exact Or.inl ⟨oneLine, behind, read, later⟩
  · refine Or.inr ⟨oneLine, fun other readToo => oneLine (kept.mp ?_)⟩
    exact (Prod.mk.inj (Option.some.inj (read.symm.trans readToo))).1

/-- The attribute for a text is read back just when the text is steady. -/
theorem attribute?_laidOut {text : String}
    (laid : LaidOut ((markupAttribute text).toList ++ rest) placed) :
    ReadsBack (attribute? placed) text rest := by
  unfold markupAttribute at laid
  split at laid
  · rename_i quoted
    rw [String.toList_append, String.toList_append, List.append_assoc, List.append_assoc,
      toList_doubleQuoted] at laid
    exact readsBack_braced (List.contains_iff_mem.mp quoted) laid
  · rename_i unquoted
    rw [String.toList_append, String.toList_append, List.append_assoc, List.append_assoc] at laid
    exact readsBack_raw (fun there => unquoted (List.contains_iff_mem.mpr there)) laid

theorem length_lt_of_attribute? {chars value behind : List Char}
    (read : attribute? chars = some (value, behind)) : behind.length < chars.length := by
  unfold attribute? at read
  split at read
  · rw [eq_of_splitFirst? read]
    simp only [List.length_cons, List.length_append]
    omega
  · split at read
    · rename_i quoted
      obtain ⟨rfl, rfl⟩ := Prod.mk.inj (Option.some.inj read)
      have shorter := Json.length_lt_of_quoted? quoted
      simp only [List.length_cons] at shorter ⊢
      omega
    · cases read
  · cases read

/-! ## Contents -/

theorem length_skipQuoted_le (chars : List Char) : (skipQuoted chars).length ≤ chars.length := by
  fun_induction skipQuoted chars <;> simp only [List.length_cons, List.length_nil] <;> omega

theorem length_skipContent_le (chars : List Char) :
    (skipContent chars).length ≤ chars.length := by
  have dropped (chars : List Char) :
      (chars.dropWhile (fun c => c != '<')).length ≤ chars.length :=
    (List.dropWhile_sublist _).length_le
  unfold skipContent
  split
  · rename_i rest
    have passed := length_skipQuoted_le rest
    have bracket := dropped (skipQuoted rest)
    simp only [List.length_cons]
    omega
  · exact dropped chars

theorem skipQuoted_append {front : List Char} (fresh : ∀ c ∈ front, c ≠ '"' ∧ c ≠ '\\')
    (rest : List Char) : skipQuoted (front ++ rest) = skipQuoted rest := by
  induction front with
  | nil => rfl
  | cons c front inductionHypothesis =>
      obtain ⟨⟨noQuote, noBackslash⟩, others⟩ := List.forall_mem_cons.mp fresh
      rw [List.cons_append, skipQuoted, inductionHypothesis others]
      · intro _ _ equal
        exact absurd equal noBackslash
      · intro equal
        exact absurd equal noQuote

/-- What is written for a character is skipped as a whole. -/
theorem skipQuoted_escapeChar {c : Char} (laid : LaidOut (escapeChar c ++ rest) placed) :
    ∃ placedRest, skipQuoted placed = skipQuoted placedRest ∧ LaidOut rest placedRest := by
  have digits : ∀ value < 16, hexDigit value ≠ '"' ∧ hexDigit value ≠ '\\' := by decide
  by_cases escaped : endsLine c = true → c.toNat < 32
  · obtain ⟨placedRest, rfl, later⟩ :=
      laid.of_append (fun written member => endsLine_of_mem_escapeChar escaped member)
    refine ⟨placedRest, ?_, later⟩
    rcases escapeChar_cases c with
      ⟨letter, _, equal, _⟩ | ⟨_, equal⟩ | ⟨_, noQuote, noBackslash, equal⟩
    · rw [equal]
      rfl
    · rw [equal]
      change skipQuoted (hexDigits 4 c.toNat ++ placedRest) = _
      refine skipQuoted_append (fun written member => ?_) placedRest
      obtain ⟨value, small, rfl⟩ := exists_of_mem_hexDigits member
      exact digits value small
    · rw [equal]
      exact skipQuoted_append (List.forall_mem_singleton.mpr ⟨noQuote, noBackslash⟩) placedRest
  · obtain ⟨ends, high⟩ := Classical.not_imp.mp escaped
    rw [Nat.not_lt] at high
    rw [escapeChar_of_endsLine ends high] at laid
    obtain ⟨width, placedRest, rfl, later⟩ := laid.of_lineEnd ends (ne_return high)
    refine ⟨placedRest, ?_, later⟩
    have blank : ∀ c ∈ '\n' :: List.replicate width ' ', c ≠ '"' ∧ c ≠ '\\' := by
      refine List.forall_mem_cons.mpr ⟨by decide, fun c member => ?_⟩
      rw [List.eq_of_mem_replicate member]
      decide
    exact skipQuoted_append blank placedRest

/-- A string is skipped up to its closing quote, even if a line end breaks it up. -/
theorem skipQuoted_laidOut {text : List Char}
    (laid : LaidOut (text.flatMap escapeChar ++ '"' :: rest) placed) :
    LaidOut rest (skipQuoted placed) := by
  induction text generalizing placed with
  | nil =>
      obtain ⟨behind, rfl, later⟩ := laid.of_cons rfl
      exact later
  | cons c text inductionHypothesis =>
      rw [List.flatMap_cons, List.append_assoc] at laid
      obtain ⟨placedRest, skipped, later⟩ := skipQuoted_escapeChar laid
      rw [skipped]
      exact inductionHypothesis later

theorem dropWhile_bracket {front : List Char} (fresh : '<' ∉ front) (behind : List Char) :
    (front ++ '<' :: behind).dropWhile (fun c => c != '<') = '<' :: behind := by
  rw [List.dropWhile_append_of_pos]
  · rfl
  · intro c member
    exact bne_iff_ne.mpr (fun equal => fresh (equal ▸ member))

/-- A content that is no string ends where its element does. -/
theorem skipContent_raw {text : List Char} (noBracket : '<' ∉ text) (noBrace : '{' ∉ text)
    (laid : LaidOut (text ++ '<' :: rest) placed) :
    ∃ behind, skipContent placed = '<' :: behind ∧ LaidOut rest behind := by
  obtain ⟨front, behind, rfl, between, later⟩ := laid.split rfl
  have fresh : '<' ∉ front := between.notMem_front rfl (by decide) (by decide) noBracket
  have freshToo : '{' ∉ front ++ ['<'] :=
    between.notMem rfl (by decide) (by decide) (by simpa using noBrace)
  refine ⟨behind, ?_, later⟩
  unfold skipContent
  split
  · rename_i content equal
    cases front with
    | nil => cases (List.cons.inj equal).1
    | cons c front =>
        obtain ⟨rfl, _⟩ := List.cons.inj equal
        exact absurd List.mem_cons_self freshToo
  · exact dropWhile_bracket fresh behind

/-- A content that is a string in braces ends where its element does. -/
theorem skipContent_braced {text : List Char}
    (laid : LaidOut ('{' :: (doubleQuotedChars text ++ '}' :: '<' :: rest)) placed) :
    ∃ behind, skipContent placed = '<' :: behind ∧ LaidOut rest behind := by
  obtain ⟨_, rfl, quoted⟩ := laid.of_cons rfl
  rw [doubleQuotedChars, List.cons_append, List.append_assoc] at quoted
  obtain ⟨inString, rfl, inside⟩ := quoted.of_cons rfl
  obtain ⟨_, brace, closing⟩ := (skipQuoted_laidOut inside).of_cons rfl
  obtain ⟨behind, rfl, later⟩ := closing.of_cons rfl
  refine ⟨behind, ?_, later⟩
  rw [skipContent, brace]
  rfl

/-- The content for a text ends where its element does. -/
theorem skipContent_laidOut {text : String}
    (laid : LaidOut ((markupContent text).toList ++ '<' :: rest) placed) :
    ∃ behind, skipContent placed = '<' :: behind ∧ LaidOut rest behind := by
  unfold markupContent at laid
  split at laid
  · rw [String.toList_append, String.toList_append, List.append_assoc, List.append_assoc,
      toList_doubleQuoted] at laid
    exact skipContent_braced laid
  · rename_i clean
    simp only [List.any_eq_true, not_exists, not_and, Bool.or_eq_true, decide_eq_true_eq,
      not_or] at clean
    exact skipContent_raw (fun there => (clean '<' there).1.2 rfl)
      (fun there => (clean '{' there).1.1.1 rfl) laid

end Laid

end TypeScaffold.Text
