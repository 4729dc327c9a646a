import TypeScaffold.Json.Numeral
import TypeScaffold.Text.Utf8

/-!
# Lexemes of JSON

A text is cut into lexemes, each with the place where it begins. A lexeme that is broken inside says
how and where; cutting ends there, because no reader goes on behind it. Two dialects differ in words
and numerals that are broken off: in a document they are no lexeme at all, in settings the fault is
located inside them.
-/

namespace TypeScaffold.Json

open Text (hexValue?)

/-- The two kinds of text that are read. -/
inductive Dialect where
  | document
  | settings
  deriving DecidableEq, Repr

/-- What is wrong inside a lexeme. -/
inductive LexicalCause where
  /-- The text ends inside a string. -/
  | unclosed
  /-- The text ends inside a numbered escape or right behind it. -/
  | escapeCutShort
  /-- A control character stands in a string. -/
  | control
  /-- No escape begins with this character. -/
  | unknownEscape
  /-- A numbered escape has a character that is no hexadecimal digit. -/
  | badDigit
  /-- Half of a surrogate pair stands alone. -/
  | loneSurrogate
  /-- No numbered escape follows the first half of a surrogate pair. -/
  | pairCutShort
  /-- A word differs from the one that its first letter begins. -/
  | word
  /-- A digit is missing in a numeral, or one stands behind a leading zero. -/
  | numeral
  /-- The text ends inside a word or a numeral. -/
  | valueCutShort
  deriving DecidableEq, Repr

/-- A fault inside a lexeme, and how many characters after the lexeme's first it stands. -/
structure LexicalFault where
  cause : LexicalCause
  offset : Nat
  deriving DecidableEq, Repr

/-- The kinds of lexeme. A scalar is a number or a word. -/
inductive Token where
  | openList
  | closeList
  | openObject
  | closeObject
  | comma
  | colon
  | text (value : String)
  | scalar (value : Json)
  | brokenText (fault : LexicalFault)
  | brokenScalar (fault : LexicalFault)
  | other

/-- A lexeme and how many characters stand before it. -/
structure Lexeme where
  token : Token
  start : Nat

/-- Whether cutting ends with this lexeme. -/
def Token.isBroken : Token → Bool
  | .brokenText _ | .brokenScalar _ | .other => true
  | _ => false

/-- The white space between lexemes. -/
def isSpace (c : Char) : Bool :=
  c = ' ' || c = '\t' || c = '\n' || c = '\r'

/-- The number written by four hexadecimal digits, or the place of the first that is none. -/
def fourDigits (a b c d : Char) : Except Nat Nat :=
  match hexValue? a, hexValue? b, hexValue? c, hexValue? d with
  | some a, some b, some c, some d => .ok (((a * 16 + b) * 16 + c) * 16 + d)
  | none, _, _, _ => .error 0
  | _, none, _, _ => .error 1
  | _, _, none, _ => .error 2
  | _, _, _, none => .error 3

/-- The character that a one-letter escape stands for. -/
def escaped? (c : Char) : Option Char :=
  if c = '"' ∨ c = '\\' ∨ c = '/' then some c
  else if c = 'b' then some (Char.ofNat 8)
  else if c = 'f' then some (Char.ofNat 12)
  else if c = 'n' then some '\n'
  else if c = 'r' then some '\r'
  else if c = 't' then some '\t'
  else none

/-- The character that stands for half of a surrogate pair without the other half. -/
def replacement : Char :=
  Char.ofNat 0xFFFD

/-- Whether a number is the first half of a surrogate pair. -/
def isHighSurrogate (n : Nat) : Bool :=
  0xD800 ≤ n && n ≤ 0xDBFF

/-- Whether a number is the second half of a surrogate pair. -/
def isLowSurrogate (n : Nat) : Bool :=
  0xDC00 ≤ n && n ≤ 0xDFFF

/-- The fault of a numbered escape, `offset` characters in, behind which the string holds less than
four characters. In settings the escape is cut short only if fewer than four octets are left;
otherwise one of the characters is no digit. -/
def shortEscape (dialect : Dialect) (offset : Nat) (rest : List Char) : LexicalFault :=
  if dialect = .settings ∧ 4 ≤ Text.Utf8.size rest then
    ⟨.badDigit, offset + 2 + (rest.takeWhile (fun c => (hexValue? c).isSome)).length⟩
  else
    ⟨.escapeCutShort, offset + 2 + rest.length⟩

/-- The fault of the first half of a surrogate pair behind which no numbered escape comes; the next
character stands `offset` characters in. -/
def halfPair (offset : Nat) : List Char → LexicalFault
  | ['\\'] => ⟨.unclosed, offset + 1⟩
  | '\\' :: _ => ⟨.pairCutShort, offset + 1⟩
  | _ => ⟨.pairCutShort, offset⟩

/-- The content of a string up to its closing quote, and the characters taken. `high` is the first
half of a surrogate pair right before this point. In a document a half alone is replaced. -/
def scanText (dialect : Dialect) (offset : Nat) (high : Option Nat) :
    List Char → Except LexicalFault (List Char × Nat)
  | [] => .error ⟨.unclosed, offset⟩
  | '\\' :: 'u' :: a :: b :: c :: d :: rest =>
      match fourDigits a b c d with
      | .error place => .error ⟨.badDigit, offset + 2 + place⟩
      | .ok number =>
          if rest.isEmpty then
            .error ⟨.escapeCutShort, offset + 6⟩
          else
            match high with
            | some first =>
                if isLowSurrogate number then
                  let code := 0x10000 + (first - 0xD800) * 0x400 + (number - 0xDC00)
                  (scanText dialect (offset + 6) none rest).map
                    (fun (chars, taken) => (Char.ofNat code :: chars, taken))
                else if dialect = .settings then
                  .error ⟨.loneSurrogate, offset + 5⟩
                else if isHighSurrogate number then
                  (scanText dialect (offset + 6) (some number) rest).map
                    (fun (chars, taken) => (replacement :: chars, taken))
                else
                  (scanText dialect (offset + 6) none rest).map
                    (fun (chars, taken) => (replacement :: Char.ofNat number :: chars, taken))
            | none =>
                if isHighSurrogate number then
                  scanText dialect (offset + 6) (some number) rest
                else if isLowSurrogate number then
                  if dialect = .settings then
                    .error ⟨.loneSurrogate, offset + 5⟩
                  else
                    (scanText dialect (offset + 6) none rest).map
                      (fun (chars, taken) => (replacement :: chars, taken))
                else
                  (scanText dialect (offset + 6) none rest).map
                    (fun (chars, taken) => (Char.ofNat number :: chars, taken))
  | '\\' :: 'u' :: rest => .error (shortEscape dialect offset rest)
  | c :: rest =>
      if high.isSome ∧ dialect = .settings then
        .error (halfPair offset (c :: rest))
      else
        let lone := if high.isSome then [replacement] else []
        if c = '"' then
          .ok (lone, offset + 1)
        else if c = '\\' then
          match rest with
          | [] => .error ⟨.unclosed, offset + 1⟩
          | letter :: rest =>
              match escaped? letter with
              | none => .error ⟨.unknownEscape, offset + 1⟩
              | some char =>
                  (scanText dialect (offset + 2) none rest).map
                    (fun (chars, taken) => (lone ++ char :: chars, taken))
        else if c.toNat < 32 then
          .error ⟨.control, offset⟩
        else
          (scanText dialect (offset + 1) none rest).map
            (fun (chars, taken) => (lone ++ c :: chars, taken))

/-- The words and the values that they write. -/
def words : List (String × Json) :=
  [("null", .null), ("true", .bool true), ("false", .bool false), ("NaN", .float .nan),
    ("Infinity", .float (.infinity false)), ("-Infinity", .float (.infinity true))]

/-- The word that a text begins with, and its length. -/
def word? (chars : List Char) : Option (Json × Nat) :=
  (words.find? (fun (word, _) => word.toList.isPrefixOf chars)).map
    (fun (word, value) => (value, word.length))

/-- Where a text first differs from a word, and whether the text has ended there. -/
def firstDifference : List Char → List Char → Nat × Bool
  | w :: word, c :: chars =>
      if w = c then
        let (place, ended) := firstDifference word chars
        (place + 1, ended)
      else
        (0, false)
  | _, chars => (0, chars.isEmpty)

def missingDigit (offset : Nat) (chars : List Char) : LexicalFault :=
  ⟨if chars.isEmpty then .valueCutShort else .numeral, offset⟩

/-- The fault of characters that continue a complete numeral without being part of it. -/
def numeralFault? (numeral : Numeral) (rest : List Char) : Option LexicalFault :=
  let length := numeral.length
  match rest with
  | [] => none
  | c :: rest =>
      if c.isDigit then
        some ⟨.numeral, length⟩
      else if c = '.' ∧ numeral.fraction.isEmpty ∧ numeral.exponent.isNone then
        some (missingDigit (length + 1) rest)
      else if (c = 'e' ∨ c = 'E') ∧ numeral.exponent.isNone then
        match rest with
        | sign :: rest =>
            if sign = '+' ∨ sign = '-' then
              some (missingDigit (length + 2) rest)
            else
              some (missingDigit (length + 1) (sign :: rest))
        | [] => some (missingDigit (length + 1) [])
      else
        none

/-- The fault of a text that begins like a word or a numeral and is neither. -/
def scalarFault? (chars : List Char) : Option LexicalFault :=
  match words.find? (fun (word, _) => word.toList.head? = chars.head? ∧ chars.head? ≠ some '-') with
  | some (word, _) =>
      let (place, ended) := firstDifference word.toList chars
      some ⟨if ended then .valueCutShort else .word, place⟩
  | none =>
      match chars with
      | '-' :: 'I' :: rest =>
          let (place, ended) := firstDifference "nfinity".toList rest
          some ⟨if ended then .valueCutShort else .word, place + 2⟩
      | '-' :: rest => some (missingDigit 1 rest)
      | _ => none

/-- The number or word at the start of a text, with the characters behind its first. -/
def scanScalar (dialect : Dialect) (chars : List Char) : Token × Nat :=
  match word? chars with
  | some (value, length) => (.scalar value, length - 1)
  | none =>
      match Numeral.scan? chars with
      | some numeral =>
          match dialect, numeralFault? numeral (chars.drop numeral.length) with
          | .settings, some fault => (.brokenScalar fault, 0)
          | _, _ => (.scalar numeral.value, numeral.length - 1)
      | none =>
          match dialect, scalarFault? chars with
          | .settings, some fault => (.brokenScalar fault, 0)
          | _, _ => (.other, 0)

/-- The lexeme that begins with a character, and how many more characters it takes. -/
def scanToken (dialect : Dialect) (c : Char) (rest : List Char) : Token × Nat :=
  if c = '[' then (.openList, 0)
  else if c = ']' then (.closeList, 0)
  else if c = '{' then (.openObject, 0)
  else if c = '}' then (.closeObject, 0)
  else if c = ',' then (.comma, 0)
  else if c = ':' then (.colon, 0)
  else if c = '"' then
    match scanText dialect 1 none rest with
    | .ok (chars, taken) => (.text (String.ofList chars), taken - 1)
    | .error fault => (.brokenText fault, 0)
  else
    scanScalar dialect (c :: rest)

/-- The lexemes of a text before which `start` characters stand. -/
def lexemes (dialect : Dialect) (start : Nat) : List Char → List Lexeme
  | [] => []
  | c :: rest =>
      if isSpace c then
        lexemes dialect (start + 1) rest
      else
        let (token, more) := scanToken dialect c rest
        if token.isBroken then
          [⟨token, start⟩]
        else
          ⟨token, start⟩ :: lexemes dialect (start + 1 + more) (rest.drop more)
termination_by chars => chars.length

end TypeScaffold.Json
