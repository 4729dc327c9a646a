/-!
# Blank characters

The characters that count as white space when a text is trimmed or wrapped.
-/

namespace TypeScaffold.Text

/-- The white space of Unicode together with the four information separators U+001C to U+001F. -/
def isBlank (c : Char) : Bool :=
  let code := c.toNat
  (9 ≤ code && code ≤ 13) || (28 ≤ code && code ≤ 32) || code == 0x85 || code == 0xA0 ||
    code == 0x1680 || (0x2000 ≤ code && code ≤ 0x200A) || code == 0x2028 || code == 0x2029 ||
    code == 0x202F || code == 0x205F || code == 0x3000

def trimEnd (chars : List Char) : List Char :=
  (chars.reverse.dropWhile isBlank).reverse

/-- Remove the blanks at both ends. -/
def trimBoth (chars : List Char) : List Char :=
  trimEnd (chars.dropWhile isBlank)

/-- Remove the blanks at both ends of a text. -/
def trim (text : String) : String :=
  String.ofList (trimBoth text.toList)

end TypeScaffold.Text
