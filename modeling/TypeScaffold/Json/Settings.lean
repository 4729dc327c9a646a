import TypeScaffold.Json.Reader

/-!
# Faults of a settings text

A fault in a settings text is located by line and column, the column in octets of UTF-8.
-/

namespace TypeScaffold.Json

/-- The wording of a fault inside a lexeme of a settings text. -/
def LexicalCause.settingsMessage : LexicalCause → String
  | .unclosed | .escapeCutShort => "EOF while parsing a string"
  | .control => "control character (\\u0000-\\u001F) found while parsing a string"
  | .unknownEscape | .badDigit => "invalid escape"
  | .loneSurrogate => "lone leading surrogate in hex escape"
  | .pairCutShort => "unexpected end of hex escape"
  | .word => "expected ident"
  | .numeral => "invalid number"
  | .valueCutShort => "EOF while parsing a value"

/-- The wording of what a settings text lacks where it goes on. -/
def Expected.settingsMessage : Expected → Found → String
  | .item true, .ending | .listSeparator, .ending => "EOF while parsing a list"
  | .key true, .ending | .colon, .ending | .objectSeparator, .ending =>
      "EOF while parsing an object"
  | _, .ending => "EOF while parsing a value"
  | .item false, .closeList | .key false, .closeObject => "trailing comma"
  | .value, _ | .item _, _ => "expected value"
  | .key _, _ => "key must be a string"
  | .colon, _ => "expected `:`"
  | .listSeparator, _ => "expected `,` or `]`"
  | .objectSeparator, _ => r"expected `,` or `}`"
  | .ending, _ => "trailing characters"

/-- The wording of a cause in a settings text. -/
def Cause.settingsMessage : Cause → String
  | .unexpected expected found => expected.settingsMessage found
  | .lexical fault => fault.cause.settingsMessage
  | .tooDeep => "recursion limit exceeded"

/-- How many characters stand before the place of a fault. -/
def ReadFault.place (fault : ReadFault) : Nat :=
  match fault.cause with
  | .unexpected _ _ | .tooDeep => fault.start
  | .lexical lexical => fault.start + lexical.offset

/-- The characters behind the last line feed. -/
def lastLine (chars : List Char) : List Char :=
  (chars.reverse.takeWhile (· ≠ '\n')).reverse

/-- Line and column, counted from one, of the character before which `count` characters stand. The
end of the text has the column of its last octet. -/
def position (count : Nat) (chars : List Char) : Nat × Nat :=
  let before := chars.take count
  match chars.drop count with
  | [] => (1 + before.countP (· = '\n'), Text.Utf8.size (lastLine before))
  | '\n' :: _ => (2 + before.countP (· = '\n'), 0)
  | _ :: _ => (1 + before.countP (· = '\n'), Text.Utf8.size (lastLine before) + 1)

/-- What is wrong with a settings text, and where. -/
structure SettingsFault where
  message : String
  line : Nat
  column : Nat
  deriving DecidableEq, Repr

/-- The value that a settings text writes. -/
def readSettings (text : String) : Except SettingsFault Json :=
  let chars := text.toList
  (read .settings chars).mapError (fun fault =>
    let (line, column) := position fault.place chars
    ⟨fault.cause.settingsMessage, line, column⟩)

end TypeScaffold.Json
