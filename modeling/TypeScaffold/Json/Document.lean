import TypeScaffold.Json.Reader

/-!
# Faults of a document

A document is a text whose line ends have been made uniform. A fault in it is located by its line.
-/

namespace TypeScaffold.Json

/-- The wording of a fault inside a lexeme of a document. -/
def LexicalCause.documentMessage : LexicalCause → String
  | .unclosed => "Unterminated string starting at"
  | .escapeCutShort | .badDigit => "Invalid \\uXXXX escape"
  | .control => "Invalid control character at"
  | .unknownEscape => "Invalid \\escape"
  | .loneSurrogate | .pairCutShort | .word | .numeral | .valueCutShort => "Expecting value"

/-- The wording of what a document lacks. -/
def Expected.documentMessage : Expected → String
  | .value | .item _ => "Expecting value"
  | .key _ => "Expecting property name enclosed in double quotes"
  | .colon => "Expecting ':' delimiter"
  | .listSeparator | .objectSeparator => "Expecting ',' delimiter"
  | .ending => "Extra data"

def Cause.documentMessage : Cause → String
  | .unexpected expected _ => expected.documentMessage
  | .lexical fault => fault.cause.documentMessage
  | .tooDeep => "Expecting value"

/-- The line, counted from one, of the character before which `count` characters stand. -/
def lineAfter (count : Nat) (chars : List Char) : Nat :=
  1 + (chars.take count).countP (· = '\n')

/-- What is wrong with a document, and in which line. -/
structure DocumentFault where
  message : String
  line : Nat
  deriving DecidableEq, Repr

/-- The value that a document writes. A byte order mark at its start is refused. -/
def readDocument (text : String) : Except DocumentFault Json :=
  let chars := text.toList
  if chars.head? = some (Char.ofNat 0xFEFF) then
    .error ⟨"Unexpected UTF-8 BOM (decode using utf-8-sig)", 1⟩
  else
    (read .document chars).mapError
      (fun fault => ⟨fault.cause.documentMessage, lineAfter fault.start chars⟩)

end TypeScaffold.Json
