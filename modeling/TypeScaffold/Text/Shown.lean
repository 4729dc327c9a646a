import TypeScaffold.Text.Casing
import TypeScaffold.Text.GlyphTable
import TypeScaffold.Text.Quoted

/-!
# Texts shown in messages

A text is shown between quotes, with every character that has no glyph written by its number.
-/

namespace TypeScaffold.Text

/-- Whether the character is shown as itself. -/
def hasGlyph (c : Char) : Bool :=
  !inRanges GlyphTable.ranges c.toNat

/-- One character between the given quotes. -/
def shownChar (quote c : Char) : List Char :=
  if c = quote ∨ c = '\\' then ['\\', c]
  else if c = '\t' then ['\\', 't']
  else if c = '\n' then ['\\', 'n']
  else if c = '\r' then ['\\', 'r']
  else if hasGlyph c then [c]
  else if c.toNat < 0x100 then '\\' :: 'x' :: hexDigits 2 c.toNat
  else if c.toNat < 0x10000 then '\\' :: 'u' :: hexDigits 4 c.toNat
  else '\\' :: 'U' :: hexDigits 8 c.toNat

/-- The quote that saves an escape: the double quote for a text that holds single quotes only. -/
def quoteFor (chars : List Char) : Char :=
  if chars.contains '\'' ∧ ¬ chars.contains '"' then '"' else '\''

/-- The text in quotes, as messages show it. -/
def shown (text : String) : String :=
  let quote := quoteFor text.toList
  String.ofList (quote :: (text.toList.flatMap (shownChar quote) ++ [quote]))

end TypeScaffold.Text
