import Mathlib.Data.List.Forall2
import TypeScaffold.Proofs.TypeExpr.Reading

/-!
# Pieces of written texts

How each part of a type text is read: a word up to its end, a string literal up to its closing
quote, a mark with the blanks around it, and brackets with all that stands in them. A text has the
same pieces wherever it stands, unless its last word goes on behind it.
-/

namespace TypeScaffold.TypeExpr

/-- No word goes on at the beginning of the text. -/
def EndsWord (rest : List Char) : Prop :=
  ∀ c, rest.head? = some c → isWordChar c = false

theorem endsWord_nil : EndsWord [] := by
  intro c begins
  cases begins

theorem endsWord_cons {c : Char} (other : isWordChar c = false) (rest : List Char) :
    EndsWord (c :: rest) := by
  intro first begins
  cases begins
  exact other

/-- Reading the text adds the pieces to those before it, unless its last word goes on behind it. -/
def HasPieces (text : List Char) (pieces : List Piece) : Prop :=
  ∀ outer done rest, EndsWord rest →
    scan outer done (text ++ rest) = scan outer (done ++ pieces) rest

theorem HasPieces.pieces? {text : String} {pieces : List Piece}
    (has : HasPieces text.toList pieces) : pieces? text = some pieces := by
  have whole := has [] [] [] endsWord_nil
  rw [List.append_nil] at whole
  rw [TypeExpr.pieces?, whole, scan]
  rfl

section Scan

variable {outer : List Opened} {done : List Piece} {rest : List Char}

/-! ## Words and literals -/

theorem hasPieces_word {word : String} (isWord : IsWord word) :
    HasPieces word.toList [.word word] := by
  intro outer done rest ends
  obtain ⟨filled, each⟩ := isWord
  have behindTaken : rest.takeWhile isWordChar = [] ∧ rest.dropWhile isWordChar = rest := by
    cases rest with
    | nil => exact ⟨rfl, rfl⟩
    | cons c rest => simp [ends c rfl]
  cases chars : word.toList with
  | nil => exact absurd (String.toList_eq_nil_iff.mp chars) filled
  | cons c more =>
      rw [chars] at each
      obtain ⟨first, others⟩ := List.forall_mem_cons.mp each
      have taken : c :: (more ++ rest).takeWhile isWordChar = word.toList := by
        rw [List.takeWhile_append_of_pos others, behindTaken.1, List.append_nil, chars]
      have left : (more ++ rest).dropWhile isWordChar = rest := by
        rw [List.dropWhile_append_of_pos others, behindTaken.2]
      rw [List.cons_append, scan, if_pos first, taken, left, String.ofList_toList]

theorem hasPieces_quoted (content : String) :
    HasPieces (Text.doubleQuoted content).toList [.whole (.literal (.text content))] := by
  intro outer done rest _
  rw [Text.toList_doubleQuoted]
  have quoted := Json.quoted?_doubleQuotedChars content.toList rest
  rw [Text.doubleQuotedChars, List.cons_append] at quoted ⊢
  rw [scan, if_neg (by decide), if_pos rfl]
  split
  · rename_i readContent behind read
    rw [quoted] at read
    cases read
    rw [String.ofList_toList]
  · rename_i read
    rw [quoted] at read
    cases read

/-! ## Blanks and marks -/

theorem scan_blank : scan outer done (' ' :: rest) = scan outer done rest := by
  rw [scan, if_neg (by decide), if_neg (by decide), if_pos rfl]

theorem isWordChar_of_mem_marks {sign : Char} (isMark : sign ∈ marks) :
    isWordChar sign = false := by
  have noWord : marks.all (fun sign => !isWordChar sign) = true := by decide
  exact Bool.not_eq_true' _ |>.mp (List.all_eq_true.mp noWord sign isMark)

theorem scan_mark {sign : Char} (isMark : sign ∈ marks) :
    scan outer done (sign :: rest) = scan outer (done ++ [.mark sign]) rest := by
  have noQuote : sign ≠ '"' := ne_of_mem_of_not_mem isMark (by decide)
  have noBlank : sign ≠ ' ' := ne_of_mem_of_not_mem isMark (by decide)
  rw [scan, isWordChar_of_mem_marks isMark, if_neg Bool.false_ne_true, if_neg noQuote,
    if_neg noBlank, if_pos (List.contains_iff_mem.mpr isMark)]

theorem scan_arrow : scan outer done ('=' :: '>' :: rest) = scan outer (done ++ [.arrow]) rest := by
  rw [scan, if_neg (by decide), if_neg (by decide), if_neg (by decide), if_neg (by decide),
    if_pos rfl, List.head?_cons, if_pos rfl, List.tail_cons]

theorem HasPieces.behind_blank {text : List Char} {pieces : List Piece}
    (has : HasPieces text pieces) : HasPieces (' ' :: text) pieces := by
  intro outer done rest ends
  rw [List.cons_append, scan_blank, has outer done rest ends]

theorem HasPieces.before_blank {text : List Char} {pieces : List Piece}
    (has : HasPieces text pieces) : HasPieces (text ++ [' ']) pieces := by
  intro outer done rest _
  have ends : EndsWord (' ' :: rest) := endsWord_cons (by decide) rest
  rw [List.append_assoc, List.singleton_append, has outer done _ ends, scan_blank]

theorem HasPieces.behind_mark {text : List Char} {pieces : List Piece} {sign : Char}
    (has : HasPieces text pieces) (isMark : sign ∈ marks) :
    HasPieces (sign :: text) (.mark sign :: pieces) := by
  intro outer done rest ends
  rw [List.cons_append, scan_mark isMark, has outer _ rest ends, List.append_assoc,
    List.singleton_append]

/-! ## Brackets -/

theorem scan_opening (bracket : Bracket) :
    scan outer done (bracket.opening :: rest) = scan ((bracket, done) :: outer) [] rest := by
  have opens : Bracket.all.find? (fun other => other.opening == bracket.opening) =
      some bracket := by
    cases bracket <;> rfl
  rw [scan, opens]
  cases bracket <;> rfl

theorem scan_closing {bracket : Bracket} {pieces : List Piece} {piece : Piece}
    (closes : bracket.close? pieces = some piece) :
    scan ((bracket, done) :: outer) pieces (bracket.closing :: rest) =
      scan outer (done ++ [piece]) rest := by
  have opens : Bracket.all.find? (fun other => other.opening == bracket.closing) = none := by
    cases bracket <;> rfl
  have finds : Bracket.all.find? (fun other => other.closing == bracket.closing) =
      some bracket := by
    cases bracket <;> rfl
  have left : closed? bracket pieces ((bracket, done) :: outer) =
      some (outer, done ++ [piece]) := by
    rw [closed?, if_pos rfl, closes, Option.map_some]
  rw [scan, opens, finds]
  simp only [left]
  cases bracket <;> rfl

theorem isWordChar_closing (bracket : Bracket) : isWordChar bracket.closing = false := by
  cases bracket <;> decide

/-- Brackets are read with all that stands in them. -/
theorem HasPieces.bracketed {text : List Char} {pieces : List Piece} {piece : Piece}
    (has : HasPieces text pieces) (bracket : Bracket)
    (closes : bracket.close? pieces = some piece) :
    HasPieces (bracket.opening :: (text ++ [bracket.closing])) [piece] := by
  intro outer done rest _
  have ends : EndsWord (bracket.closing :: rest) := endsWord_cons (isWordChar_closing bracket) rest
  rw [List.cons_append, List.append_assoc, List.singleton_append, scan_opening,
    has _ _ _ ends, List.nil_append, scan_closing closes]

theorem hasPieces_nil : HasPieces [] [] := by
  intro outer done rest _
  rw [List.nil_append, List.append_nil]

end Scan

/-! ## Texts one behind the other -/

theorem HasPieces.append {text others : List Char} {pieces more : List Piece}
    (has : HasPieces text pieces) (hasToo : HasPieces others more)
    (ends : ∀ rest, EndsWord rest → EndsWord (others ++ rest)) :
    HasPieces (text ++ others) (pieces ++ more) := by
  intro outer done rest endsRest
  rw [List.append_assoc, has _ _ _ (ends rest endsRest), hasToo _ _ _ endsRest, List.append_assoc]

/-- The separator is read as the mark, and no word goes on in it. -/
def Separates (separator : List Char) (sign : Char) : Prop :=
  ∀ outer done rest, EndsWord (separator ++ rest) ∧
    scan outer done (separator ++ rest) = scan outer (done ++ [.mark sign]) rest

theorem separates_spaced {sign : Char} (isMark : sign ∈ marks) :
    Separates [' ', sign, ' '] sign := by
  intro outer done rest
  refine ⟨endsWord_cons (by decide) _, ?_⟩
  change scan outer done (' ' :: sign :: ' ' :: rest) = _
  rw [scan_blank, scan_mark isMark, scan_blank]

theorem separates_behind {sign : Char} (isMark : sign ∈ marks) : Separates [sign, ' '] sign := by
  intro outer done rest
  refine ⟨endsWord_cons (isWordChar_of_mem_marks isMark) _, ?_⟩
  change scan outer done (sign :: ' ' :: rest) = _
  rw [scan_mark isMark, scan_blank]

/-- Separated texts have their pieces with a mark between neighbours. -/
theorem hasPieces_intercalate {separator : String} {sign : Char}
    (separates : Separates separator.toList sign) :
    ∀ {texts : List String} {all : List (List Piece)},
      List.Forall₂ (fun text pieces => HasPieces text.toList pieces) texts all →
      HasPieces (separator.intercalate texts).toList ([.mark sign].intercalate all)
  | [], _, .nil => hasPieces_nil
  | [text], [pieces], .cons has .nil => by
      rw [String.intercalate_singleton, List.intercalate_singleton]
      exact has
  | text :: next :: texts, pieces :: nextPieces :: all, .cons has more => by
      have later := hasPieces_intercalate separates more
      intro outer done rest ends
      obtain ⟨endsHere, scanned⟩ := separates outer (done ++ pieces)
        ((separator.intercalate (next :: texts)).toList ++ rest)
      rw [String.intercalate_cons_cons, String.toList_append, String.toList_append,
        List.append_assoc, List.append_assoc, has _ _ _ endsHere, scanned, later _ _ _ ends,
        List.intercalate_cons_cons]
      simp only [List.append_assoc]

end TypeScaffold.TypeExpr
