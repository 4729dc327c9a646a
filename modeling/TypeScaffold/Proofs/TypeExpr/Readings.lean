import TypeScaffold.Proofs.Model.Literals
import TypeScaffold.Proofs.TypeExpr.Scanning
import TypeScaffold.Proofs.TypeExpr.Terms

/-!
# What written types read as

Every type of which the names are words is read from its text, whatever stands in it. What is read
is the type itself wherever brackets hold its parts together. An array of a union, though, reads as
a union of which the last alternative is an array, and an intersection of unions reads as a union of
intersections: the text has lost the structure of the type.
-/

namespace TypeScaffold

open Decimal

theorem exists_forall₂_of_forall₂_exists {α β γ : Type} {R : α → β → Prop} {S : β → γ → Prop}
    {items : List α} {results : List γ}
    (each : List.Forall₂ (fun item result => ∃ middle, R item middle ∧ S middle result)
      items results) :
    ∃ middles, List.Forall₂ R items middles ∧ List.Forall₂ S middles results := by
  induction each with
  | nil => exact ⟨[], .nil, .nil⟩
  | cons here _ inductionHypothesis =>
      obtain ⟨middle, toMiddle, fromMiddle⟩ := here
      obtain ⟨middles, toMiddles, fromMiddles⟩ := inductionHypothesis
      exact ⟨middle :: middles, .cons toMiddle toMiddles, .cons fromMiddle fromMiddles⟩

namespace TypeExpr

/-! ## Types as they are read -/

/-- A truth value or a number reads as its word. -/
def ofLiteral : Scalar → TypeExpr
  | .text content => .literal (.text content)
  | value => .named value.code

mutual

/-- The alternatives that the text of a type shows, each as the list of its operands. -/
def terms : TypeExpr → List (List TypeExpr)
  | .named name => [[.named name]]
  | .literal value => [[ofLiteral value]]
  | .array element => (terms element).modifyLast (fun operands => operands.modifyLast .array)
  | .tuple elements => [[.tuple ((termsOfAll elements).map ofTerms)]]
  | .union members => (termsOfAll members).flatten
  | .intersection members => (termsOfAll members).foldr meet [[]]
  | .object slots => [[.object (readSlots slots)]]
  | .record key value => [[.record (ofTerms (terms key)) (ofTerms (terms value))]]
  | .callback => [[.callback]]
  | .parenthesized inner => [[.parenthesized (ofTerms (terms inner))]]
termination_by structural type => type

def termsOfAll : List TypeExpr → List (List (List TypeExpr))
  | [] => []
  | type :: rest => terms type :: termsOfAll rest
termination_by structural types => types

def readSlots : List (SlotOf TypeExpr) → List (SlotOf TypeExpr)
  | [] => []
  | ⟨name, optional, type⟩ :: rest => ⟨name, optional, ofTerms (terms type)⟩ :: readSlots rest
termination_by structural slots => slots

end

/-- The type that the text of a type reads as. -/
def asRead (type : TypeExpr) : TypeExpr :=
  ofTerms type.terms

mutual

/-- Names are words, and unions and intersections have members. -/
def IsWritable : TypeExpr → Prop
  | .named name => IsWord name
  | .literal _ | .callback => True
  | .array element => IsWritable element
  | .tuple elements => AllWritable elements
  | .union members | .intersection members => members ≠ [] ∧ AllWritable members
  | .object slots => SlotsWritable slots
  | .record key value => IsWritable key ∧ IsWritable value
  | .parenthesized inner => IsWritable inner
termination_by structural type => type

def AllWritable : List TypeExpr → Prop
  | [] => True
  | type :: rest => IsWritable type ∧ AllWritable rest
termination_by structural types => types

def SlotsWritable : List (SlotOf TypeExpr) → Prop
  | [] => True
  | ⟨name, _, type⟩ :: rest => IsWord name ∧ IsWritable type ∧ SlotsWritable rest
termination_by structural slots => slots

end

/-! ## Words -/

theorem isWord_of_isNumeral {text : String} (numeral : IsNumeral text) : IsWord text := by
  refine ⟨numeral.1, fun c there => ?_⟩
  have signs : ['.', 'e', '+', '-'].all isWordChar = true := by decide
  rcases numeral.2 c there with digit | sign
  · simp [isWordChar, isNameChar, Char.isAlphanum, digit]
  · exact List.all_eq_true.mp signs c sign

theorem isWord_of_isName {name : String} (isName : IsName name) : IsWord name := by
  refine ⟨isName.1, fun c there => ?_⟩
  rw [isWordChar, isName.2 c there]
  rfl

/-- A truth value or a number is written as a word. -/
theorem isWord_code {value : Scalar} (noText : ∀ content, value ≠ .text content) :
    IsWord value.code := by
  cases value with
  | bool truth => cases truth <;> decide
  | int whole => exact isWord_of_isNumeral (isNumeral_toString whole)
  | text content => exact absurd rfl (noText content)
  | float number =>
      cases number with
      | nan => decide
      | infinity negative => cases negative <;> decide
      | finite negative significand power canonical =>
          exact isWord_of_isNumeral (Scalar.isNumeral_code_of_isFinite trivial)

/-! ## Texts that show terms -/

/-- The pieces write the terms, and no comma and no semicolon is among them. -/
structure WriteTerms (pieces : List Piece) (terms : List (List TypeExpr)) : Prop where
  read : terms? pieces = some terms
  unseparated : ∀ piece ∈ pieces, piece.isMark ',' = false ∧ piece.isMark ';' = false

/-- The text has pieces that write the terms. -/
def HasTerms (text : List Char) (terms : List (List TypeExpr)) : Prop :=
  ∃ pieces, HasPieces text pieces ∧ WriteTerms pieces terms

theorem HasTerms.read? {text : String} {terms : List (List TypeExpr)}
    (has : HasTerms text.toList terms) : read? text = some (ofTerms terms) := by
  obtain ⟨pieces, hasPieces, writes⟩ := has
  rw [TypeExpr.read?, hasPieces.pieces?, Option.bind_some, ofPieces?, writes.read, Option.map_some]

/-- A single piece that is a type. -/
theorem hasTerms_piece {text : List Char} {piece : Piece} {type : TypeExpr}
    (has : HasPieces text [piece]) (operand : operand? [piece] = some type)
    (unmarked : ∀ sign, piece.isMark sign = false) : HasTerms text [[type]] := by
  have single : ∀ sign, [piece].splitOnP (Piece.isMark sign) = [[piece]] := fun sign =>
    List.splitOnP_eq_singleton (fun other there => List.mem_singleton.mp there ▸ unmarked sign)
  have operands : operands? [piece] = some [type] := by
    rw [operands?, single, List.mapM_cons, operand]
    rfl
  refine ⟨[piece], has, ?_, fun other there => ?_⟩
  · rw [terms?, single, List.mapM_cons, operands]
    rfl
  · rw [List.mem_singleton.mp there]
    exact ⟨unmarked ',', unmarked ';'⟩

theorem hasTerms_word {word : String} (isWord : IsWord word) :
    HasTerms word.toList [[.named word]] :=
  hasTerms_piece (hasPieces_word isWord) rfl (fun _ => rfl)

theorem hasTerms_literal (value : Scalar) : HasTerms value.code.toList [[ofLiteral value]] := by
  cases value with
  | text content =>
      exact hasTerms_piece (hasPieces_quoted content) rfl (fun _ => rfl)
  | bool truth => exact hasTerms_word (isWord_code (fun _ equal => by cases equal))
  | int whole => exact hasTerms_word (isWord_code (fun _ equal => by cases equal))
  | float number => exact hasTerms_word (isWord_code (fun _ equal => by cases equal))

theorem hasTerms_callback : HasTerms "(() => void)".toList [[.callback]] := by
  have void : HasPieces "void".toList [.word "void"] := hasPieces_word (by decide)
  have noParameters : HasPieces ['(', ')'] [.noParameters] :=
    hasPieces_nil.bracketed .round rfl
  have inner : HasPieces (['(', ')'] ++ " => void".toList)
      [.noParameters, .arrow, .word "void"] := by
    intro outer done rest ends
    change scan outer done (['(', ')'] ++ (' ' :: '=' :: '>' :: ' ' :: ("void".toList ++ rest))) = _
    rw [noParameters _ _ _ (endsWord_cons (by decide) _), scan_blank, scan_arrow, scan_blank,
      void _ _ _ ends]
    simp only [List.append_assoc, List.cons_append, List.nil_append]
  exact hasTerms_piece (inner.bracketed .round rfl) rfl (fun _ => rfl)

/-! ## Texts in brackets -/

theorem ofPieces?_of_writeTerms {pieces : List Piece} {terms : List (List TypeExpr)}
    (writes : WriteTerms pieces terms) : ofPieces? pieces = some (ofTerms terms) := by
  rw [ofPieces?, writes.read, Option.map_some]

/-- Parentheses around a type are neither those of a callback nor around nothing. -/
theorem close?_round {pieces : List Piece} {type : TypeExpr} (read : ofPieces? pieces = some type) :
    Bracket.round.close? pieces = some (.whole (.parenthesized type)) := by
  have empty : ofPieces? [] = none := rfl
  have arrow : ofPieces? [.noParameters, .arrow, .word "void"] = none := rfl
  unfold Bracket.close?
  split
  case h_1 => exact absurd (empty.symm.trans read) (by simp)
  case h_2 => exact absurd (arrow.symm.trans read) (by simp)
  case h_3 => rw [read, Option.map_some]
  all_goals contradiction

theorem HasTerms.parenthesized {text : List Char} {terms : List (List TypeExpr)}
    (has : HasTerms text terms) :
    HasTerms ('(' :: (text ++ [')'])) [[.parenthesized (ofTerms terms)]] := by
  obtain ⟨pieces, hasPieces, writes⟩ := has
  have closes := close?_round (ofPieces?_of_writeTerms writes)
  exact hasTerms_piece (hasPieces.bracketed .round closes) rfl (fun _ => rfl)

theorem HasTerms.array {text : List Char} {terms : List (List TypeExpr)}
    (has : HasTerms text terms) :
    HasTerms (text ++ ['[', ']'])
      (terms.modifyLast (fun operands => operands.modifyLast .array)) := by
  obtain ⟨pieces, hasPieces, writes⟩ := has
  have brackets : HasPieces ['[', ']'] [.list []] := hasPieces_nil.bracketed .square rfl
  refine ⟨pieces ++ [.list []], hasPieces.append brackets (fun rest _ => ?_), ?_, ?_⟩
  · exact endsWord_cons (by decide) _
  · exact terms?_array writes.read
  · intro piece there
    rcases List.mem_append.mp there with inside | last
    · exact writes.unseparated piece inside
    · rw [List.mem_singleton.mp last]
      exact ⟨rfl, rfl⟩

/-! ## Separated texts -/

/-- Texts with a mark between them are cut into what each of them gives. -/
theorem hasPieces_separated {α : Type} {separator : String} {sign : Char}
    (separates : Separates separator.toList sign) {value? : List Piece → Option α}
    {texts : List String} {values : List α}
    (each : List.Forall₂ (fun text value => ∃ pieces, HasPieces text.toList pieces ∧
      (∀ piece ∈ pieces, piece.isMark sign = false) ∧ value? pieces = some value) texts values)
    (filled : texts ≠ []) :
    ∃ pieces, HasPieces (separator.intercalate texts).toList pieces ∧
      (pieces.splitOnP (Piece.isMark sign)).mapM value? = some values := by
  obtain ⟨parts, hasEach, givesEach⟩ := exists_forall₂_of_forall₂_exists each
  have filledParts : parts ≠ [] := by
    rintro rfl
    exact filled (List.forall₂_nil_right_iff.mp hasEach)
  obtain ⟨unmarked, read⟩ := (List.forall₂_and_left parts values).mp givesEach
  have separated : Piece.isMark sign (.mark sign) = true := beq_self_eq_true sign
  refine ⟨_, hasPieces_intercalate separates hasEach, ?_⟩
  rw [splitOnP_intercalate separated filledParts unmarked]
  exact mapM_eq_some_iff.mpr read

/-- Types with commas between them. -/
theorem hasPieces_commas {texts : List String} {all : List (List (List TypeExpr))}
    (each : List.Forall₂ (fun text terms => HasTerms text.toList terms) texts all)
    (filled : texts ≠ []) :
    ∃ pieces, HasPieces (", ".intercalate texts).toList pieces ∧
      separated? ',' pieces = some (all.map ofTerms) := by
  have separates : Separates ", ".toList ',' := separates_behind (by decide)
  refine hasPieces_separated separates (List.forall₂_map_right_iff.mpr (each.imp ?_)) filled
  rintro text terms ⟨pieces, hasPieces, writes⟩
  exact ⟨pieces, hasPieces, fun piece there => (writes.unseparated piece there).1,
    ofPieces?_of_writeTerms writes⟩

/-- Brackets that stand around something. -/
theorem close?_square {pieces : List Piece} {types : List TypeExpr}
    (read : separated? ',' pieces = some types) :
    Bracket.square.close? pieces = some (.list types) := by
  cases pieces with
  | nil => cases read
  | cons piece rest =>
      rw [Bracket.close?, read, Option.map_some]
      exact List.cons_ne_nil piece rest

theorem hasTerms_tuple {texts : List String} {all : List (List (List TypeExpr))}
    (each : List.Forall₂ (fun text terms => HasTerms text.toList terms) texts all) :
    HasTerms ("[" ++ ", ".intercalate texts ++ "]").toList [[.tuple (all.map ofTerms)]] := by
  have bracketed : ("[" ++ ", ".intercalate texts ++ "]").toList =
      '[' :: ((", ".intercalate texts).toList ++ [']']) := by
    rw [String.toList_append, String.toList_append, List.append_assoc]
    rfl
  rw [bracketed]
  cases each with
  | nil =>
      exact hasTerms_piece (hasPieces_nil.bracketed .square rfl) rfl (fun _ => rfl)
  | cons here more =>
      obtain ⟨pieces, hasPieces, read⟩ := hasPieces_commas (.cons here more) (List.cons_ne_nil _ _)
      exact hasTerms_piece (hasPieces.bracketed .square (close?_square read)) rfl (fun _ => rfl)

theorem hasTerms_record {key value : String} {keyTerms valueTerms : List (List TypeExpr)}
    (hasKey : HasTerms key.toList keyTerms) (hasValue : HasTerms value.toList valueTerms) :
    HasTerms ("Record<" ++ key ++ ", " ++ value ++ ">").toList
      [[.record (ofTerms keyTerms) (ofTerms valueTerms)]] := by
  obtain ⟨pieces, hasPieces, read⟩ :=
    hasPieces_commas (.cons hasKey (.cons hasValue .nil)) (List.cons_ne_nil key [value])
  have record : HasPieces "Record".toList [.word "Record"] := hasPieces_word (by decide)
  have closes : Bracket.angle.close? pieces =
      some (.arguments [ofTerms keyTerms, ofTerms valueTerms]) := by
    rw [Bracket.close?, read]
    rfl
  have whole := record.append (hasPieces.bracketed .angle closes)
    (fun rest _ => endsWord_cons (by decide) _)
  have text : ("Record<" ++ key ++ ", " ++ value ++ ">").toList =
      "Record".toList ++ ('<' :: ((", ".intercalate [key, value]).toList ++ ['>'])) := by
    simp only [String.intercalate_cons_cons, String.intercalate_singleton, String.toList_append,
      List.append_assoc]
    rfl
  rw [text]
  refine ⟨_, whole, ⟨rfl, ?_⟩⟩
  intro piece there
  simp only [List.mem_append, List.mem_singleton] at there
  rcases there with rfl | rfl
  · exact ⟨rfl, rfl⟩
  · exact ⟨rfl, rfl⟩

/-! ## Objects -/

/-- The text has pieces that write the slot, and no semicolon is among them. -/
def HasSlot (text : String) (slot : Slot) : Prop :=
  ∃ pieces, HasPieces text.toList pieces ∧ (∀ piece ∈ pieces, piece.isMark ';' = false) ∧
    slot? pieces = some slot

theorem hasSlot_of_hasTerms {name text : String} {terms : List (List TypeExpr)}
    (isWord : IsWord name) (has : HasTerms text.toList terms) (optional : Bool) :
    HasSlot (name ++ (if optional then "?" else "") ++ ": " ++ text)
      ⟨name, optional, ofTerms terms⟩ := by
  obtain ⟨pieces, hasPieces, writes⟩ := has
  have read := ofPieces?_of_writeTerms writes
  have colon : HasPieces (':' :: ' ' :: text.toList) (.mark ':' :: pieces) :=
    hasPieces.behind_blank.behind_mark (by decide)
  have unmarked : ∀ piece ∈ pieces, piece.isMark ';' = false :=
    fun piece there => (writes.unseparated piece there).2
  cases optional with
  | false =>
      refine ⟨.word name :: .mark ':' :: pieces, ?_, ?_, ?_⟩
      · have whole := (hasPieces_word isWord).append colon
          (fun rest _ => endsWord_cons (by decide) _)
        simpa [String.toList_append, List.append_assoc] using whole
      · exact List.forall_mem_cons.mpr ⟨rfl, List.forall_mem_cons.mpr ⟨rfl, unmarked⟩⟩
      · rw [slot?, read, Option.map_some]
  | true =>
      refine ⟨.word name :: .mark '?' :: .mark ':' :: pieces, ?_, ?_, ?_⟩
      · have question : HasPieces ('?' :: ':' :: ' ' :: text.toList)
            (.mark '?' :: .mark ':' :: pieces) := colon.behind_mark (by decide)
        have whole := (hasPieces_word isWord).append question
          (fun rest _ => endsWord_cons (by decide) _)
        simpa [String.toList_append, List.append_assoc] using whole
      · exact List.forall_mem_cons.mpr
          ⟨rfl, List.forall_mem_cons.mpr ⟨rfl, List.forall_mem_cons.mpr ⟨rfl, unmarked⟩⟩⟩
      · rw [slot?, read, Option.map_some]

/-- Braces that stand around something. -/
theorem close?_curly {pieces : List Piece} {slots : List Slot}
    (read : (pieces.splitOnP (Piece.isMark ';')).mapM slot? = some slots) :
    Bracket.curly.close? pieces = some (.whole (.object slots)) := by
  cases pieces with
  | nil => cases read
  | cons piece rest =>
      rw [Bracket.close?, read, Option.map_some]
      exact List.cons_ne_nil piece rest

theorem hasTerms_object {texts : List String} {slots : List Slot}
    (each : List.Forall₂ HasSlot texts slots) (filled : texts ≠ []) :
    HasTerms (r"{ " ++ "; ".intercalate texts ++ r" }").toList [[.object slots]] := by
  have separates : Separates "; ".toList ';' := separates_behind (by decide)
  obtain ⟨pieces, hasPieces, read⟩ := hasPieces_separated separates each filled
  have inner : HasPieces (' ' :: ((("; ".intercalate texts).toList) ++ [' '])) pieces :=
    hasPieces.before_blank.behind_blank
  have text : (r"{ " ++ "; ".intercalate texts ++ r" }").toList =
      '\x7b' :: ((' ' :: ((("; ".intercalate texts).toList) ++ [' '])) ++ ['\x7d']) := by
    simp only [String.toList_append, List.append_assoc, List.cons_append]
    rfl
  rw [text]
  exact hasTerms_piece (inner.bracketed .curly (close?_curly read)) rfl (fun _ => rfl)

/-! ## Unions and intersections -/

theorem WriteTerms.beside {pieces others : List Piece} {terms more all : List (List TypeExpr)}
    {sign : Char} (writes : WriteTerms pieces terms) (writesToo : WriteTerms others more)
    (noComma : Piece.isMark ',' (.mark sign) = false)
    (noSemicolon : Piece.isMark ';' (.mark sign) = false)
    (read : terms? (pieces ++ .mark sign :: others) = some all) :
    WriteTerms (pieces ++ .mark sign :: others) all := by
  refine ⟨read, fun piece there => ?_⟩
  simp only [List.mem_append, List.mem_cons] at there
  rcases there with first | rfl | second
  · exact writes.unseparated piece first
  · exact ⟨noComma, noSemicolon⟩
  · exact writesToo.unseparated piece second

/-- Alternatives side by side are the alternatives of all. -/
theorem writeTerms_union :
    ∀ {parts : List (List Piece)} {all : List (List (List TypeExpr))},
      List.Forall₂ WriteTerms parts all → parts ≠ [] →
      WriteTerms ([.mark '|'].intercalate parts) all.flatten
  | [], _, _, filled => absurd rfl filled
  | [part], [terms], .cons writes .nil, _ => by
      rw [List.intercalate_singleton, List.flatten_singleton]
      exact writes
  | part :: next :: parts, terms :: nextTerms :: all, .cons writes more, _ => by
      have later := writeTerms_union more (List.cons_ne_nil next parts)
      have joined := terms?_alternatives writes.read later.read
      rw [List.intercalate_cons_cons, List.append_assoc, List.singleton_append, List.flatten_cons]
      exact writes.beside later rfl rfl joined

theorem meet_unit (terms : List (List TypeExpr)) : meet terms [[]] = terms := by
  rw [meet, List.append_nil]
  rcases List.eq_nil_or_concat' terms with rfl | ⟨front, last, rfl⟩
  · rfl
  · rw [List.modifyLast_concat, List.append_nil]

/-- Operands side by side are joined where they meet. -/
theorem writeTerms_intersection :
    ∀ {parts : List (List Piece)} {all : List (List (List TypeExpr))},
      List.Forall₂ WriteTerms parts all → parts ≠ [] →
      WriteTerms ([.mark '&'].intercalate parts) (all.foldr meet [[]])
  | [], _, _, filled => absurd rfl filled
  | [part], [terms], .cons writes .nil, _ => by
      rw [List.intercalate_singleton, List.foldr_cons, List.foldr_nil, meet_unit]
      exact writes
  | part :: next :: parts, terms :: nextTerms :: all, .cons writes more, _ => by
      have later := writeTerms_intersection more (List.cons_ne_nil next parts)
      have joined := terms?_meet writes.read later.read
      rw [List.intercalate_cons_cons, List.append_assoc, List.singleton_append, List.foldr_cons]
      exact writes.beside later rfl rfl joined

/-- Members with an operator between them. -/
theorem hasTerms_intercalate {separator : String} {sign : Char}
    (separates : Separates separator.toList sign) {texts : List String}
    {all : List (List (List TypeExpr))} {whole : List (List TypeExpr)}
    (each : List.Forall₂ (fun text terms => HasTerms text.toList terms) texts all)
    (filled : texts ≠ [])
    (together : ∀ parts, List.Forall₂ WriteTerms parts all → parts ≠ [] →
      WriteTerms ([.mark sign].intercalate parts) whole) :
    HasTerms (separator.intercalate texts).toList whole := by
  obtain ⟨parts, hasEach, writeEach⟩ := exists_forall₂_of_forall₂_exists each
  have filledParts : parts ≠ [] := by
    rintro rfl
    exact filled (List.forall₂_nil_right_iff.mp hasEach)
  exact ⟨_, hasPieces_intercalate separates hasEach, together parts writeEach filledParts⟩

/-! ## Reading back -/

theorem codes_ne_nil {types : List TypeExpr} (filled : types ≠ []) : codes types ≠ [] := by
  cases types with
  | nil => exact absurd rfl filled
  | cons type rest => exact List.cons_ne_nil _ _

mutual

/-- The text of a type shows its terms. -/
theorem hasTerms_code : ∀ {type : TypeExpr}, type.IsWritable → HasTerms type.code.toList type.terms
  | .named _, writable => hasTerms_word writable
  | .literal value, _ => hasTerms_literal value
  | .array element, writable => by
      have inner : HasTerms element.code.toList element.terms := hasTerms_code writable
      rw [code, String.toList_append]
      exact inner.array
  | .tuple elements, writable => hasTerms_tuple (hasTerms_codes writable)
  | .union members, writable => by
      have separates : Separates " | ".toList '|' := separates_spaced (by decide)
      have filled : codes members ≠ [] := codes_ne_nil writable.1
      exact hasTerms_intercalate separates (hasTerms_codes writable.2) filled
        (fun _ => writeTerms_union)
  | .intersection members, writable => by
      have separates : Separates " & ".toList '&' := separates_spaced (by decide)
      have filled : codes members ≠ [] := codes_ne_nil writable.1
      exact hasTerms_intercalate separates (hasTerms_codes writable.2) filled
        (fun _ => writeTerms_intersection)
  | .object [], _ =>
      hasTerms_piece (hasPieces_nil.bracketed .curly rfl) rfl (fun _ => rfl)
  | .object (⟨_, optional, _⟩ :: _), writable =>
      hasTerms_object (.cons (hasSlot_of_hasTerms writable.1 (hasTerms_code writable.2.1) optional)
        (hasSlot_slotCodes writable.2.2)) (List.cons_ne_nil _ _)
  | .record key value, writable =>
      hasTerms_record (hasTerms_code writable.1) (hasTerms_code writable.2)
  | .callback, _ => hasTerms_callback
  | .parenthesized inner, writable => by
      have read : HasTerms inner.code.toList inner.terms := hasTerms_code writable
      rw [code, String.toList_append, String.toList_append, List.append_assoc]
      exact read.parenthesized

theorem hasTerms_codes : ∀ {types : List TypeExpr}, AllWritable types →
    List.Forall₂ (fun text terms => HasTerms text.toList terms) (codes types) (termsOfAll types)
  | [], _ => .nil
  | _ :: _, writable => .cons (hasTerms_code writable.1) (hasTerms_codes writable.2)

theorem hasSlot_slotCodes : ∀ {slots : List Slot}, SlotsWritable slots →
    List.Forall₂ HasSlot (slotCodes slots) (readSlots slots)
  | [], _ => .nil
  | ⟨_, optional, _⟩ :: _, writable =>
      .cons (hasSlot_of_hasTerms writable.1 (hasTerms_code writable.2.1) optional)
        (hasSlot_slotCodes writable.2.2)

end

end TypeExpr

end TypeScaffold
