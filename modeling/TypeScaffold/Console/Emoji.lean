import TypeScaffold.Console.Cells
import TypeScaffold.Console.EmojiTable
import TypeScaffold.Text.Hex

/-!
# Emoji by name

A name between two colons stands for an emoji, in upper or lower case. The name may end in the tone
of the skin, and behind it may stand whether the emoji or the plain symbol is asked for. What names
no emoji stays as it is.
-/

namespace TypeScaffold.Console

open Text

/-- A part of an emoji: a fixed character, or the place of the tone of the skin, with what stands
there where no tone is given. -/
inductive EmojiPart where
  | fixed (char : Char)
  | tone (neutral : List Char)
  deriving DecidableEq, Repr

/-- An emoji and its names. -/
structure Emoji where
  names : List String
  parts : List EmojiPart
  deriving DecidableEq, Repr

namespace Emoji

/-- The part that a word of the table writes. -/
def readPart : List Char → EmojiPart
  | ['*'] => .tone []
  | '*' :: digits => .tone [Char.ofNat (hexNumber digits)]
  | digits => .fixed (Char.ofNat (hexNumber digits))

/-- The emoji that an entry of the table writes. -/
def readEntry (entry : List Char) : Emoji :=
  match splitOn '=' entry with
  | [names, parts] => ⟨(splitOn ',' names).map String.ofList, (splitOn '.' parts).map readPart⟩
  | _ => ⟨[], []⟩

def all : List Emoji :=
  (splitBlanks EmojiTable.entries.toList).map readEntry

/-- The endings of names that give the tone of the skin. -/
def tones : List (String × Char) :=
  [("_light_skin_tone", Char.ofNat 0x1F3FB), ("_medium-light_skin_tone", Char.ofNat 0x1F3FC),
    ("_medium_skin_tone", Char.ofNat 0x1F3FD), ("_medium-dark_skin_tone", Char.ofNat 0x1F3FE),
    ("_dark_skin_tone", Char.ofNat 0x1F3FF)]

/-- Whether the emoji has a place for the tone of the skin. -/
def hasTone (emoji : Emoji) : Bool :=
  emoji.parts.any (fun part => match part with
    | .fixed _ => false
    | .tone _ => true)

/-- The characters of the emoji in a tone, or without one. -/
def chars (emoji : Emoji) (tone : Option Char) : List Char :=
  emoji.parts.flatMap (fun part => match part with
    | .fixed char => [char]
    | .tone neutral => (tone.map (fun char => [char])).getD neutral)

def named? (name : String) : Option Emoji :=
  all.find? (fun emoji => emoji.names.contains name)

/-- The characters of the emoji of a name that ends in a tone. -/
def toned? (name : String) (ending : String) (tone : Char) : Option (List Char) := do
  let base ← beforeEnding? ending.toList name.toList
  let emoji ← named? (String.ofList base)
  if emoji.hasTone then some (emoji.chars (some tone)) else none

def find? (name : String) : Option (List Char) :=
  match named? name with
  | some emoji => some (emoji.chars none)
  | none => tones.findSome? (fun (ending, tone) => toned? name ending tone)

/-- The endings of a code that ask for the emoji or for the plain symbol, and the selectors that
do. -/
def selectors : List (String × Char) :=
  [("-emoji", emojiSelector), ("-text", Char.ofNat 0xFE0E)]

/-- A code divided into the name and the selector that it asks for. -/
def splitSelector (code : List Char) : List Char × List Char :=
  match selectors.findSome? (fun (ending, selector) =>
      (beforeEnding? ending.toList code).map (fun name => (name, [selector]))) with
  | some (name, selector) => (name, selector)
  | none => (code, [])

/-- What stands for a code between colons. -/
def ofCode (code : List Char) : List Char :=
  let (name, selector) := splitSelector code
  match find? (lower (String.ofList name)) with
  | some chars => chars ++ selector
  | none => ':' :: code ++ [':']

/-- The text whose pieces each stand behind a colon. A piece without blanks that another colon ends
is a code. -/
def replaceFrom : List (List Char) → List Char
  | [] => []
  | [piece] => ':' :: piece
  | piece :: next :: rest =>
      if piece.any isBlank then ':' :: piece ++ replaceFrom (next :: rest)
      else ofCode piece ++ next ++ replaceFrom rest

/-- The text with emoji for their codes. -/
def replace (text : List Char) : List Char :=
  match splitOn ':' text with
  | [] => []
  | piece :: pieces => piece ++ replaceFrom pieces

end Emoji

end TypeScaffold.Console
