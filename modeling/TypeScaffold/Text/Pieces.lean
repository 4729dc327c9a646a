import TypeScaffold.Text.Blank

/-!
# Pieces of a text

A text is cut at every occurrence of a character and put together again, so that nothing is lost
but the character itself, which is known.
-/

namespace TypeScaffold.Text

/-- The pieces between occurrences of a character; there is always at least one. -/
def splitOn (mark : Char) : List Char → List (List Char)
  | [] => [[]]
  | c :: rest =>
      if c = mark then
        [] :: splitOn mark rest
      else
        match splitOn mark rest with
        | [] => [[c]]
        | piece :: pieces => (c :: piece) :: pieces

/-- Pieces put together with a character between neighbours. -/
def joinWith (mark : Char) : List (List Char) → List Char
  | [] => []
  | [piece] => piece
  | piece :: pieces => piece ++ mark :: joinWith mark pieces

theorem splitOn_ne_nil (mark : Char) (chars : List Char) : splitOn mark chars ≠ [] := by
  cases chars with
  | nil => simp [splitOn]
  | cons c rest =>
      rw [splitOn]
      split
      · simp
      · split <;> simp

/-- Nothing is lost when a text is cut into pieces. -/
theorem joinWith_splitOn (mark : Char) (chars : List Char) :
    joinWith mark (splitOn mark chars) = chars := by
  induction chars with
  | nil => rfl
  | cons c rest inductionHypothesis =>
      cases pieces : splitOn mark rest with
      | nil => exact absurd pieces (splitOn_ne_nil mark rest)
      | cons piece others =>
          rw [pieces] at inductionHypothesis
          by_cases marked : c = mark
          · simp [splitOn, marked, pieces, joinWith, inductionHypothesis]
          · cases others with
            | nil => simp_all [splitOn, joinWith]
            | cons next others => simp_all [splitOn, joinWith]

theorem joinWith_cons (mark : Char) (piece : List Char) (pieces : List (List Char)) :
    joinWith mark (piece :: pieces) = piece ++ pieces.flatMap (fun other => mark :: other) := by
  induction pieces generalizing piece with
  | nil => simp [joinWith]
  | cons next pieces inductionHypothesis => simp [joinWith, inductionHypothesis]

/-- The texts before and behind the first occurrence of a character. -/
def splitFirst? (mark : Char) : List Char → Option (List Char × List Char)
  | [] => none
  | c :: rest =>
      if c = mark then some ([], rest)
      else (splitFirst? mark rest).map (fun (before, behind) => (c :: before, behind))

theorem eq_of_splitFirst? {mark : Char} {chars before behind : List Char}
    (found : splitFirst? mark chars = some (before, behind)) :
    chars = before ++ mark :: behind := by
  induction chars generalizing before with
  | nil => simp [splitFirst?] at found
  | cons c rest inductionHypothesis =>
      by_cases marked : c = mark
      · simp_all [splitFirst?]
      · simp only [splitFirst?, marked, if_false, Option.map_eq_some_iff, Prod.mk.injEq] at found
        obtain ⟨⟨other, others⟩, inner, rfl, rfl⟩ := found
        rw [inductionHypothesis inner]
        rfl

/-- The stretches of a text between blanks. -/
def splitBlanks (chars : List Char) : List (List Char) :=
  (splitOn ' ' (chars.map (fun c => if isBlank c then ' ' else c))).filter
    (fun piece => !piece.isEmpty)

/-- What stands before an ending; `none` if the text ends otherwise. -/
def beforeEnding? (ending chars : List Char) : Option (List Char) :=
  if ending.isSuffixOf chars then some (chars.take (chars.length - ending.length)) else none

end TypeScaffold.Text
