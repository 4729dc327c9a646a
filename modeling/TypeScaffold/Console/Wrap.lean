import TypeScaffold.Console.Cells
import TypeScaffold.Text.Lines

/-!
# Wrapping

A line is wrapped at a width. A word goes to the next line if it does not fit without the blanks
behind it; a word wider than the width is cut, or stands alone where words are kept whole. Blanks
beyond the width are dropped.
-/

namespace TypeScaffold.Console

open Text

/-- What becomes of a word that is wider than the line. -/
inductive LongWord where
  | folded
  | whole
  deriving DecidableEq, Repr

/-- The pieces of a word that is wider than the line. -/
def LongWord.pieces (long : LongWord) (width : Nat) (word : List Char) : List (List Char) :=
  match long with
  | .folded => chop width word
  | .whole => [word]

/-- The words of a line that continues the characters `current`, given in reverse order; `complete`
says that they hold a word and a blank behind it. -/
def wordsFrom (current : List Char) (complete : Bool) : List Char → List (List Char)
  | [] => if current.isEmpty then [] else [current.reverse]
  | c :: rest =>
      if isBlank c then
        wordsFrom (c :: current) (complete || current.head?.any (fun last => !isBlank last)) rest
      else if complete then
        current.reverse :: wordsFrom [c] false rest
      else
        wordsFrom (c :: current) false rest

/-- The words of a line, each with the blanks behind it, and the first also with those before it. -/
def words (line : List Char) : List (List Char) :=
  wordsFrom [] false line

/-- The lines of words; `line` is the line at hand, which takes `used` cells. A long word ends it,
and an empty piece is no line of its own at the start. -/
def fill (long : LongWord) (width : Nat) (line : List Char) (used : Nat) :
    List (List Char) → List (List Char)
  | [] => [line]
  | word :: rest =>
      let needed := cells (trimEnd word)
      if used + needed ≤ width then
        fill long width (line ++ word) (used + cells word) rest
      else if width < needed then
        let pieces := long.pieces width word
        let before := if line.isEmpty then pieces.dropLast.dropWhile List.isEmpty
          else line :: pieces.dropLast
        let last := pieces.getLast?.getD []
        before ++ fill long width last (cells last) rest
      else if 0 < used ∧ ¬ line.isEmpty then
        line :: fill long width word (cells word) rest
      else
        fill long width (line ++ word) used rest

/-- Drop blanks at the end as far as the line has more characters than the width. -/
def dropExcess (width : Nat) (line : List Char) : List Char :=
  let blanks := line.length - (trimEnd line).length
  line.take (line.length - min blanks (line.length - width))

def wrapLine (long : LongWord) (width : Nat) (line : List Char) : List (List Char) :=
  (fill long width [] 0 (words (expandTabs line))).map (dropExcess width)

def wrap (long : LongWord) (width : Nat) (text : List Char) : List (List Char) :=
  (splitLines text).flatMap (wrapLine long width)

end TypeScaffold.Console
