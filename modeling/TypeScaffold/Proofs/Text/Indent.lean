import TypeScaffold.Proofs.Text.Lines

/-!
# Parts of indented texts

A part of a text that holds no line end stays in one piece when the text is moved right, be it a
fragment or a block of a component.
-/

namespace TypeScaffold.Text

/-- No character of the words ends a line. -/
def IsOneLine (words : String) : Prop :=
  ∀ c ∈ words.toList, endsLine c = false

instance (words : String) : Decidable (IsOneLine words) :=
  List.decidableBAll (fun c => endsLine c = false) words.toList

def Contains (text words : String) : Prop :=
  words.toList <:+: text.toList

theorem newline_notMem {words : List Char} (oneLine : ∀ c ∈ words, endsLine c = false) :
    '\n' ∉ words := by
  intro there
  have ends : endsLine '\n' = true := by decide
  rw [oneLine '\n' there] at ends
  cases ends

theorem Contains.trans {text part words : String} (outer : Contains text part)
    (inner : Contains part words) : Contains text words :=
  List.IsInfix.trans inner outer

theorem contains_around (front words behind : String) : Contains (front ++ words ++ behind) words := by
  rw [Contains, String.toList_append, String.toList_append]
  exact ⟨front.toList, behind.toList, rfl⟩

theorem contains_intercalate {separator part : String} {parts : List String}
    (member : part ∈ parts) : Contains (separator.intercalate parts) part := by
  obtain ⟨front, behind, rfl⟩ := List.append_of_mem member
  obtain ⟨before, after, around⟩ :=
    (HasPlace.refl (fun text : String => text)).intercalate separator behind front
  have split : separator.intercalate (front ++ part :: behind) = before ++ part ++ after :=
    around part
  rw [split]
  exact contains_around before part after

theorem contains_unlines {lines : List String} {line : String} (member : line ∈ lines) :
    Contains (unlines lines) line :=
  contains_intercalate member

/-- A part without line feeds stays in one piece when the lines behind the first move. -/
theorem contains_hang {text words : String} (fresh : '\n' ∉ words.toList)
    (inside : Contains text words) : Contains (hang text) words := by
  obtain ⟨before, after, equal⟩ := inside
  have kept : hangChars words.toList = words.toList := by
    rw [hangChars]
    refine (List.flatMap_congr (fun c member => if_neg ?_)).trans (List.flatMap_singleton' _)
    rintro rfl
    exact fresh member
  rw [Contains, hang, String.toList_ofList, ← equal]
  refine ⟨hangChars before, hangChars after, ?_⟩
  conv_lhs => rw [← kept]
  simp only [hangChars, List.flatMap_append]

/-! ## Pieces between marks -/

section Marks

variable {mark : Char} {words : List Char}

theorem prefix_of_prefix_append_cons (fresh : mark ∉ words) (left : List Char) {right : List Char}
    (begins : words <+: left ++ mark :: right) : words <+: left := by
  obtain ⟨behind, equal⟩ := begins
  rcases List.append_eq_append_iff.mp equal with ⟨rest, rfl, _⟩ | ⟨rest, rfl, behindMark⟩
  · exact List.prefix_append words rest
  · cases rest with
    | nil => rw [List.append_nil]
    | cons first others =>
        obtain ⟨rfl, _⟩ := List.cons.inj behindMark
        exact absurd (List.mem_append_right left List.mem_cons_self) fresh

theorem infix_of_infix_append_cons (fresh : mark ∉ words) (left : List Char) {right : List Char}
    (inside : words <:+: left ++ mark :: right) : words <:+: left ∨ words <:+: right := by
  induction left with
  | nil =>
      rcases List.infix_cons_iff.mp inside with begins | later
      · have empty := prefix_of_prefix_append_cons fresh [] begins
        exact Or.inl empty.isInfix
      · exact Or.inr later
  | cons c left inductionHypothesis =>
      rcases List.infix_cons_iff.mp inside with begins | later
      · have first := prefix_of_prefix_append_cons fresh (c :: left) begins
        exact Or.inl first.isInfix
      · rcases inductionHypothesis later with inLeft | inRight
        · exact Or.inl (List.infix_cons inLeft)
        · exact Or.inr inRight

/-- What holds no mark stands in one of the pieces. -/
theorem exists_piece_of_infix_joinWith (fresh : mark ∉ words) : ∀ {pieces : List (List Char)},
    pieces ≠ [] → words <:+: joinWith mark pieces → ∃ piece ∈ pieces, words <:+: piece
  | [], filled, _ => absurd rfl filled
  | [piece], _, inside => ⟨piece, List.mem_cons_self, inside⟩
  | piece :: next :: others, _, inside => by
      rcases infix_of_infix_append_cons fresh piece inside with inPiece | inRest
      · exact ⟨piece, List.mem_cons_self, inPiece⟩
      · obtain ⟨later, there, inLater⟩ :=
          exists_piece_of_infix_joinWith fresh (List.cons_ne_nil next others) inRest
        exact ⟨later, List.mem_cons_of_mem piece there, inLater⟩

theorem infix_joinWith_of_mem {piece : List Char} : ∀ {pieces : List (List Char)},
    piece ∈ pieces → piece <:+: joinWith mark pieces
  | [single], member => by
      obtain rfl := List.mem_singleton.mp member
      exact List.infix_rfl
  | first :: next :: others, member => by
      rcases List.mem_cons.mp member with rfl | later
      · exact (List.prefix_append _ _).isInfix
      · exact (infix_joinWith_of_mem later).trans
          ((List.suffix_cons mark _).trans (List.suffix_append first _)).isInfix

end Marks

/-! ## Lines that are moved -/

theorem infix_indentLine (width : Nat) (line : List Char) : line <:+: indentLine width line := by
  cases line with
  | nil => exact List.infix_rfl
  | cons c rest => exact (List.suffix_append _ _).isInfix

theorem IsOneLine.contains_indent {words text : String} (oneLine : IsOneLine words)
    (inside : Contains text words) (width : Nat) : Contains (indent width text) words := by
  have joined : words.toList <:+: joinWith '\n' (splitOn '\n' text.toList) := by
    rw [joinWith_splitOn]
    exact inside
  obtain ⟨line, there, inLine⟩ :=
    exists_piece_of_infix_joinWith (newline_notMem oneLine) (splitOn_ne_nil '\n' text.toList) joined
  have moved : indentLine width line ∈ (splitLines text.toList).map (indentLine width) :=
    List.mem_map_of_mem there
  rw [Contains, indent, String.toList_ofList]
  exact (inLine.trans (infix_indentLine width line)).trans (infix_joinWith_of_mem moved)

/-! ## Blocks of a component -/

theorem paragraphs_cons_of_endsLine {c : Char} (ends : endsLine c = true) (rest : List Char) :
    ∃ later, paragraphs (c :: rest) = [] :: paragraphs later ∧
      (rest = later ∨ c = '\r' ∧ rest = '\n' :: later) := by
  rw [paragraphs.eq_def]
  split
  · rename_i empty
    cases empty
  · rename_i others equal
    obtain ⟨rfl, rfl⟩ := List.cons.inj equal
    exact ⟨others, rfl, Or.inr ⟨rfl, rfl⟩⟩
  · rename_i first others _ equal
    obtain ⟨rfl, rfl⟩ := List.cons.inj equal
    rw [if_pos ends]
    exact ⟨rest, rfl, Or.inl rfl⟩

theorem paragraphs_cons {c : Char} (goesOn : endsLine c = false) (rest : List Char) :
    ∃ line lines, paragraphs (c :: rest) = (c :: line) :: lines ∧
      (paragraphs rest = line :: lines ∨ paragraphs rest = []) := by
  have noReturn : c ≠ '\r' := by
    rintro rfl
    revert goesOn
    decide
  rw [paragraphs]
  · rw [goesOn, if_neg Bool.false_ne_true]
    cases paragraphs rest with
    | nil => exact ⟨[], [], rfl, Or.inr rfl⟩
    | cons line lines => exact ⟨line, lines, rfl, Or.inl rfl⟩
  · intro others isReturn
    exact absurd isReturn noReturn

/-- What a text begins with up to its first line end stands at the beginning of its first line. -/
theorem exists_paragraphs_of_prefix {words : List Char}
    (oneLine : ∀ c ∈ words, endsLine c = false) (filled : words ≠ []) {chars : List Char}
    (begins : words <+: chars) : ∃ line lines, paragraphs chars = line :: lines ∧ words <+: line := by
  induction words generalizing chars with
  | nil => exact absurd rfl filled
  | cons c words inductionHypothesis =>
      obtain ⟨goesOn, others⟩ := List.forall_mem_cons.mp oneLine
      obtain ⟨behind, rfl⟩ := begins
      rw [List.cons_append]
      obtain ⟨line, lines, paragraphed, rest⟩ := paragraphs_cons goesOn (words ++ behind)
      refine ⟨c :: line, lines, paragraphed, List.cons_prefix_cons.mpr ⟨rfl, ?_⟩⟩
      by_cases last : words = []
      · rw [last]
        exact List.nil_prefix
      · obtain ⟨next, more, paragraphedToo, beginsNext⟩ :=
          inductionHypothesis others last (List.prefix_append words behind)
        rw [paragraphedToo] at rest
        rcases rest with same | none
        · obtain ⟨rfl, _⟩ := List.cons.inj same
          exact beginsNext
        · cases none

theorem exists_paragraph_of_infix {words : List Char}
    (oneLine : ∀ c ∈ words, endsLine c = false) (filled : words ≠ []) {chars : List Char}
    (inside : words <:+: chars) : ∃ line ∈ paragraphs chars, words <:+: line := by
  -- A carriage return and the line feed behind it go together, so the rest is not the tail.
  induction length : chars.length using Nat.strong_induction_on generalizing chars with
  | _ size inductionHypothesis =>
    subst length
    cases chars with
    | nil => exact absurd (List.infix_nil.mp inside) filled
    | cons c rest =>
        rcases List.infix_cons_iff.mp inside with begins | later
        · obtain ⟨line, lines, paragraphed, beginsLine⟩ :=
            exists_paragraphs_of_prefix oneLine filled begins
          rw [paragraphed]
          exact ⟨line, List.mem_cons_self, beginsLine.isInfix⟩
        cases ends : endsLine c with
        | true =>
            obtain ⟨behind, paragraphed, skipped⟩ := paragraphs_cons_of_endsLine ends rest
            have shorter : behind.length < (c :: rest).length := by
              rcases skipped with rfl | ⟨_, rfl⟩ <;> simp only [List.length_cons] <;> omega
            have inBehind : words <:+: behind := by
              rcases skipped with rfl | ⟨_, rfl⟩
              · exact later
              · rcases infix_of_infix_append_cons (newline_notMem oneLine) [] later with nowhere | there
                · exact absurd (List.infix_nil.mp nowhere) filled
                · exact there
            obtain ⟨line, there, inLine⟩ := inductionHypothesis _ shorter inBehind rfl
            rw [paragraphed]
            exact ⟨line, List.mem_cons_of_mem _ there, inLine⟩
        | false =>
            have shorter : rest.length < (c :: rest).length := Nat.lt_succ_self _
            obtain ⟨line, there, inLine⟩ := inductionHypothesis _ shorter later rfl
            obtain ⟨first, lines, paragraphed, same | none⟩ := paragraphs_cons ends rest
            · rw [same] at there
              rw [paragraphed]
              rcases List.mem_cons.mp there with rfl | among
              · exact ⟨c :: line, List.mem_cons_self, List.infix_cons inLine⟩
              · exact ⟨line, List.mem_cons_of_mem _ among, inLine⟩
            · rw [none] at there
              cases there

theorem IsOneLine.contains_indentBlock {words text : String} (oneLine : IsOneLine words)
    (inside : Contains text words) (width : Nat) : Contains (indentBlock width text) words := by
  by_cases empty : words.toList = []
  · rw [Contains, empty]
    exact List.nil_infix
  have ended : words.toList <:+: text.toList ++ ['\n'] :=
    List.IsInfix.trans inside (List.prefix_append _ _).isInfix
  obtain ⟨piece, there, inPiece⟩ := exists_paragraph_of_infix oneLine empty ended
  rw [Contains, indentBlock]
  cases paragraphed : paragraphs (text.toList ++ ['\n']) with
  | nil =>
      rw [paragraphed] at there
      cases there
  | cons line lines =>
      rw [paragraphed] at there
      have inJoined : words.toList <:+: joinLines (line :: lines.map (indentLine width)) := by
        rcases List.mem_cons.mp there with rfl | among
        · exact inPiece.trans (infix_joinWith_of_mem List.mem_cons_self)
        · have moved : indentLine width piece ∈ line :: lines.map (indentLine width) :=
            List.mem_cons_of_mem _ (List.mem_map_of_mem among)
          exact (inPiece.trans (infix_indentLine width piece)).trans (infix_joinWith_of_mem moved)
      rw [String.toList_ofList]
      exact inJoined.trans (List.suffix_append _ _).isInfix

/-! ## Properties of parts -/

/-- A text has the property if a part of it has the property, moved right or not. -/
structure Spreads (P : String → Prop) : Prop where
  outward : ∀ {text part : String}, Contains text part → P part → P text
  moved : ∀ {text : String}, P text → ∀ width, P (indent width text)

theorem IsOneLine.spreads {words : String} (oneLine : IsOneLine words) :
    Spreads (fun text => Contains text words) where
  outward within inside := within.trans inside
  moved inside width := oneLine.contains_indent inside width

end TypeScaffold.Text
