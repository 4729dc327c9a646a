import TypeScaffold.Proofs.Json.Quoted
import TypeScaffold.TypeExpr

/-!
# Reading type texts

A type text is read from left to right. A part in brackets is read as soon as it closes, so what is
left of a text are pieces outside all brackets and string literals. There `[]` binds tighter than
`&`, and `&` tighter than `|`: the pieces are cut at every `|`, each alternative at every `&`, and
an operand is a single type with any number of `[]` behind it.
-/

namespace TypeScaffold.TypeExpr

/-! ## Words -/

/-- The characters of names; an identifier has no others. -/
def isNameChar (c : Char) : Bool :=
  c.isAlphanum || c = '_' || c = '$' || 128 ≤ c.toNat

/-- A text with the characters of names only. -/
def IsName (name : String) : Prop :=
  name ≠ "" ∧ ∀ c ∈ name.toList, isNameChar c = true

instance (name : String) : Decidable (IsName name) :=
  @instDecidableAnd _ _ _ (List.decidableBAll _ name.toList)

/-- The characters of names and numerals. -/
def isWordChar (c : Char) : Bool :=
  isNameChar c || c = '.' || c = '+' || c = '-'

/-- A name or a numeral. -/
def IsWord (word : String) : Prop :=
  word ≠ "" ∧ ∀ c ∈ word.toList, isWordChar c = true

instance (word : String) : Decidable (IsWord word) :=
  @instDecidableAnd _ _ _ (List.decidableBAll _ word.toList)

/-! ## Pieces -/

/-- What stands outside all brackets. -/
inductive Piece where
  | word (word : String)
  /-- A type that is complete by itself: a string literal, an object, or a type in parentheses. -/
  | whole (type : TypeExpr)
  /-- What stands in square brackets. -/
  | list (types : List TypeExpr)
  /-- What stands in angle brackets. -/
  | arguments (types : List TypeExpr)
  | mark (sign : Char)
  | arrow
  /-- Parentheses around nothing. -/
  | noParameters

def Piece.isMark (sign : Char) : Piece → Bool
  | .mark other => other == sign
  | _ => false

/-- The signs that separate types or stand behind the name of a slot. -/
def marks : List Char :=
  ['|', '&', ',', ';', ':', '?']

/-! ## Precedence -/

/-- A single type with any number of `[]` behind it. Its pieces come from the last to the first. -/
def operandFromEnd? : List Piece → Option TypeExpr
  | .list [] :: piece :: before => (operandFromEnd? (piece :: before)).map .array
  | [.word word] => some (.named word)
  | [.whole type] => some type
  | [.list types] => some (.tuple types)
  | [.arguments [key, value], .word "Record"] => some (.record key value)
  | _ => none

/-- A single type with any number of `[]` behind it. -/
def operand? (pieces : List Piece) : Option TypeExpr :=
  operandFromEnd? pieces.reverse

/-- The operands of one alternative. -/
def operands? (pieces : List Piece) : Option (List TypeExpr) :=
  (pieces.splitOnP (Piece.isMark '&')).mapM operand?

/-- The alternatives that pieces write, each as the list of its operands. -/
def terms? (pieces : List Piece) : Option (List (List TypeExpr)) :=
  (pieces.splitOnP (Piece.isMark '|')).mapM operands?

/-- The intersection of the operands, unless there is only one. -/
def ofOperands : List TypeExpr → TypeExpr
  | [type] => type
  | types => .intersection types

/-- The union of the alternatives, unless there is only one. -/
def ofTerms : List (List TypeExpr) → TypeExpr
  | [operands] => ofOperands operands
  | terms => .union (terms.map ofOperands)

/-- The type that pieces write. -/
def ofPieces? (pieces : List Piece) : Option TypeExpr :=
  (terms? pieces).map ofTerms

/-! ## Brackets -/

inductive Bracket where
  | round
  | square
  | curly
  | angle
  deriving DecidableEq

def Bracket.opening : Bracket → Char
  | .round => '('
  | .square => '['
  | .curly => '{'
  | .angle => '<'

def Bracket.closing : Bracket → Char
  | .round => ')'
  | .square => ']'
  | .curly => '}'
  | .angle => '>'

def Bracket.all : List Bracket :=
  [.round, .square, .curly, .angle]

/-- The types that a mark separates. -/
def separated? (sign : Char) (pieces : List Piece) : Option (List TypeExpr) :=
  (pieces.splitOnP (Piece.isMark sign)).mapM ofPieces?

/-- A slot of an object: its name, perhaps a question mark, and its type behind a colon. -/
def slot? : List Piece → Option Slot
  | .word name :: .mark ':' :: type => (ofPieces? type).map (⟨name, false, ·⟩)
  | .word name :: .mark '?' :: .mark ':' :: type => (ofPieces? type).map (⟨name, true, ·⟩)
  | _ => none

/-- What pieces in brackets are as a whole. -/
def Bracket.close? : Bracket → List Piece → Option Piece
  | .round, [] => some .noParameters
  | .round, [.noParameters, .arrow, .word "void"] => some (.whole .callback)
  | .round, pieces => (ofPieces? pieces).map (fun type => .whole (.parenthesized type))
  | .square, [] => some (.list [])
  | .square, pieces => (separated? ',' pieces).map .list
  | .curly, [] => some (.whole (.object []))
  | .curly, pieces =>
      ((pieces.splitOnP (Piece.isMark ';')).mapM slot?).map (fun slots => .whole (.object slots))
  | .angle, pieces => (separated? ',' pieces).map .arguments

/-! ## Reading -/

/-- An open bracket and the pieces before it. -/
abbrev Opened := Bracket × List Piece

/-- What is left to do behind a bracket that closes. -/
def closed? (bracket : Bracket) (pieces : List Piece) :
    List Opened → Option (List Opened × List Piece)
  | (other, before) :: outer =>
      if other = bracket then (bracket.close? pieces).map (fun piece => (outer, before ++ [piece]))
      else none
  | [] => none

/-- The pieces of a text, given the brackets that are open before it, innermost first, and the
pieces behind the last of them. -/
def scan (outer : List Opened) (done : List Piece) : List Char → Option (List Piece)
  | [] => if outer.isEmpty then some done else none
  | c :: rest =>
      if isWordChar c then
        scan outer (done ++ [.word (String.ofList (c :: rest.takeWhile isWordChar))])
          (rest.dropWhile isWordChar)
      else if c = '"' then
        match quoted : Json.quoted? (c :: rest) with
        | some (content, behind) =>
            scan outer (done ++ [.whole (.literal (.text (String.ofList content)))]) behind
        | none => none
      else if c = ' ' then
        scan outer done rest
      else if marks.contains c then
        scan outer (done ++ [.mark c]) rest
      else if c = '=' then
        if rest.head? = some '>' then scan outer (done ++ [.arrow]) rest.tail else none
      else
        match Bracket.all.find? (fun bracket => bracket.opening == c) with
        | some bracket => scan ((bracket, done) :: outer) [] rest
        | none =>
            match Bracket.all.find? (fun bracket => bracket.closing == c) with
            | some bracket =>
                match closed? bracket done outer with
                | some (outer, done) => scan outer done rest
                | none => none
            | none => none
termination_by chars => chars.length
decreasing_by
  all_goals simp only [List.length_cons, List.length_tail]
  · exact Nat.lt_succ_of_le (List.dropWhile_sublist _).length_le
  · exact Json.length_lt_of_quoted? quoted
  all_goals omega

/-- The pieces of a text outside all its brackets and string literals. -/
def pieces? (text : String) : Option (List Piece) :=
  scan [] [] text.toList

/-- The type that a text writes. -/
def read? (text : String) : Option TypeExpr :=
  (pieces? text).bind ofPieces?

end TypeScaffold.TypeExpr
