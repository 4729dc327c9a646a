import TypeScaffold.Text.Lines
import TypeScaffold.Text.Quoted

/-!
# Single-quoted texts

A single-quoted text stands on one line, and reading it up to its closing quote gives the text back,
whatever comes behind it. So different texts are different literals.
-/

namespace TypeScaffold.Text

theorem toList_singleQuoted (text : String) :
    (singleQuoted text).toList = singleQuotedChars text.toList :=
  String.toList_ofList

/-- The character for which a letter behind a backslash stands, of the escapes that are written. -/
def escapedSingle? (letter : Char) : Option Char :=
  if letter = '\\' ∨ letter = '\'' then some letter
  else if letter = 'n' then some '\n'
  else none

/-- What a literal holds up to its closing quote, and what stands behind that. The opening quote has
been read. -/
def readSingle? : List Char → Option (List Char × List Char)
  | [] => none
  | [c] => if c = '\'' then some ([], []) else none
  | c :: next :: rest =>
      if c = '\'' then some ([], next :: rest)
      else if c = '\\' then
        (escapedSingle? next).bind (fun stands =>
          (readSingle? rest).map (fun (content, behind) => (stands :: content, behind)))
      else
        (readSingle? (next :: rest)).map (fun (content, behind) => (c :: content, behind))

theorem readSingle?_quote (rest : List Char) : readSingle? ('\'' :: rest) = some ([], rest) := by
  cases rest with
  | nil => rfl
  | cons next rest => rfl

/-- Reading what is written for a character gives the character. -/
theorem readSingle?_escapeSingle (c : Char) {rest : List Char} (more : rest ≠ []) :
    readSingle? (escapeSingle c ++ rest) =
      (readSingle? rest).map (fun (content, behind) => (c :: content, behind)) := by
  by_cases backslash : c = '\\'
  · subst backslash
    rfl
  by_cases quote : c = '\''
  · subst quote
    rfl
  by_cases lineFeed : c = '\n'
  · subst lineFeed
    rfl
  obtain ⟨next, others, rfl⟩ := List.exists_cons_of_ne_nil more
  rw [escapeSingle, if_neg backslash, if_neg quote, if_neg lineFeed, List.singleton_append,
    readSingle?, if_neg quote, if_neg backslash]

theorem readSingle?_flatMap (content rest : List Char) :
    readSingle? (content.flatMap escapeSingle ++ '\'' :: rest) = some (content, rest) := by
  induction content with
  | nil => exact readSingle?_quote rest
  | cons c content inductionHypothesis =>
      have more : content.flatMap escapeSingle ++ '\'' :: rest ≠ [] :=
        List.append_ne_nil_of_right_ne_nil _ (List.cons_ne_nil _ rest)
      rw [List.flatMap_cons, List.append_assoc, readSingle?_escapeSingle c more,
        inductionHypothesis, Option.map_some]

theorem newline_notMem_escapeSingle (c : Char) : '\n' ∉ escapeSingle c := by
  unfold escapeSingle
  split
  · decide
  · split
    · decide
    · split
      · decide
      · rename_i lineFeed
        exact fun there => lineFeed (List.mem_singleton.mp there).symm

/-- A literal stands on one line. -/
theorem newline_notMem_singleQuoted (text : String) : '\n' ∉ (singleQuoted text).toList := by
  have quote : '\n' ∉ ['\''] := by decide
  rw [toList_singleQuoted, singleQuotedChars, List.mem_cons, List.mem_append]
  rintro (opening | content | closing)
  · exact absurd opening (by decide)
  · obtain ⟨c, _, written⟩ := List.mem_flatMap.mp content
    exact newline_notMem_escapeSingle c written
  · exact quote closing

/-! ## Lines at the end -/

theorem splitOn_append (mark : Char) (before behind : List Char) :
    splitOn mark (before ++ mark :: behind) = splitOn mark before ++ splitOn mark behind := by
  induction before with
  | nil => simp [splitOn]
  | cons c before inductionHypothesis =>
      rw [List.cons_append, splitOn, splitOn, inductionHypothesis]
      by_cases marked : c = mark
      · rw [if_pos marked, if_pos marked, List.cons_append]
      · obtain ⟨piece, pieces, split⟩ := List.exists_cons_of_ne_nil (splitOn_ne_nil mark before)
        rw [if_neg marked, if_neg marked, split]
        rfl

theorem splitOn_of_notMem {mark : Char} {chars : List Char} (absent : mark ∉ chars) :
    splitOn mark chars = [chars] := by
  induction chars with
  | nil => rfl
  | cons c rest inductionHypothesis =>
      obtain ⟨other, later⟩ := List.ne_and_not_mem_of_not_mem_cons absent
      rw [splitOn, if_neg (Ne.symm other), inductionHypothesis later]

/-- Lines at the end of a text are its last lines. -/
theorem splitLines_append_lines (before : List Char) {lines : List (List Char)}
    (each : ∀ line ∈ lines, '\n' ∉ line) :
    splitLines (before ++ lines.flatMap (fun line => '\n' :: line)) =
      splitLines before ++ lines := by
  induction lines generalizing before with
  | nil => simp
  | cons line lines inductionHypothesis =>
      obtain ⟨here, later⟩ := List.forall_mem_cons.mp each
      have first : splitLines (before ++ '\n' :: line) = splitLines before ++ [line] := by
        rw [splitLines, splitOn_append, splitOn_of_notMem here]
        rfl
      rw [List.flatMap_cons, ← List.append_assoc, inductionHypothesis _ later, first,
        List.append_assoc, List.singleton_append]

end TypeScaffold.Text
