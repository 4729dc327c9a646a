import TypeScaffold.Text.Hex

/-!
# Quoted texts

String literals of the generated code. Each form escapes character by character, so the escaped
text of an append is the append of the escaped texts.
-/

namespace TypeScaffold.Text

/-- A character inside double quotes: the quote, the backslash and the controls are escaped, by
their letter where they have one. -/
def escapeChar (c : Char) : List Char :=
  if c = '"' then ['\\', '"']
  else if c = '\\' then ['\\', '\\']
  else if c = '\n' then ['\\', 'n']
  else if c = '\r' then ['\\', 'r']
  else if c = '\t' then ['\\', 't']
  else if c.toNat = 8 then ['\\', 'b']
  else if c.toNat = 12 then ['\\', 'f']
  else if c.toNat < 32 then '\\' :: 'u' :: hexDigits 4 c.toNat
  else [c]

/-- The characters of a double-quoted literal, quotes included. -/
def doubleQuotedChars (chars : List Char) : List Char :=
  '"' :: (chars.flatMap escapeChar ++ ['"'])

def doubleQuoted (text : String) : String :=
  String.ofList (doubleQuotedChars text.toList)

/-- A character inside single quotes: the quote, the backslash and the line feed are escaped. -/
def escapeSingle (c : Char) : List Char :=
  if c = '\\' then ['\\', '\\']
  else if c = '\'' then ['\\', '\'']
  else if c = '\n' then ['\\', 'n']
  else [c]

/-- The characters of a single-quoted literal, quotes included. -/
def singleQuotedChars (chars : List Char) : List Char :=
  '\'' :: (chars.flatMap escapeSingle ++ ['\''])

def singleQuoted (text : String) : String :=
  String.ofList (singleQuotedChars text.toList)

/-- A blank between every star and the slash that follows it, so that the text can stand inside a
block comment. -/
def commentSafeChars : List Char → List Char
  | [] => []
  | '*' :: '/' :: rest => '*' :: ' ' :: '/' :: commentSafeChars rest
  | c :: rest => c :: commentSafeChars rest

/-- The text with every comment end broken up. -/
def commentSafe (text : String) : String :=
  String.ofList (commentSafeChars text.toList)

/-- The value of a markup attribute: in double quotes as it is, or as a literal in braces when it
holds a double quote. -/
def markupAttribute (text : String) : String :=
  if text.toList.contains '"' then
    r"{" ++ doubleQuoted text ++ r"}"
  else
    "\"" ++ text ++ "\""

/-- The content of a markup element: as it is, or as a literal in braces when it holds a brace or
an angle bracket. -/
def markupContent (text : String) : String :=
  if text.toList.any (fun c => c = '{' || c = '}' || c = '<' || c = '>') then
    r"{" ++ doubleQuoted text ++ r"}"
  else
    text

end TypeScaffold.Text
