import TypeScaffold.Text.Casing
import TypeScaffold.Text.Hex
import TypeScaffold.Text.Pieces

/-!
# Names of styles

A style is named by words for its effects and colours, and several names mean one style. The normal
form lists the effects in their order, then the colour, the background and the link, so that names
of one style have one normal form. What names no style is its own normal form, but for case and the
blanks around it.
-/

namespace TypeScaffold.Console

open Text

/-- What a style may set on or off. -/
inductive Effect where
  | bold
  | dim
  | italic
  | underline
  | blink
  | blink2
  | reverse
  | conceal
  | strike
  | underline2
  | frame
  | encircle
  | overline
  deriving DecidableEq, Repr

namespace Effect

/-- All effects in the order of the normal form. -/
def all : List Effect :=
  [bold, dim, italic, underline, blink, blink2, reverse, conceal, strike, underline2, frame,
    encircle, overline]

def word : Effect → String
  | bold => "bold"
  | dim => "dim"
  | italic => "italic"
  | underline => "underline"
  | blink => "blink"
  | blink2 => "blink2"
  | reverse => "reverse"
  | conceal => "conceal"
  | strike => "strike"
  | underline2 => "underline2"
  | frame => "frame"
  | encircle => "encircle"
  | overline => "overline"

def short? : Effect → Option String
  | bold => some "b"
  | dim => some "d"
  | italic => some "i"
  | underline => some "u"
  | reverse => some "r"
  | conceal => some "c"
  | strike => some "s"
  | underline2 => some "uu"
  | overline => some "o"
  | blink | blink2 | frame | encircle => none

/-- The effect that a word stands for. -/
def named? (name : String) : Option Effect :=
  all.find? (fun effect => effect.word = name || effect.short? = some name)

/-- The words of the normal form for an effect that is set. -/
def words (effect : Effect) (on : Bool) : List String :=
  if on then [effect.word] else ["not", effect.word]

end Effect

def colourNames : String :=
  "
  black red green yellow blue magenta cyan white bright_black bright_red bright_green
  bright_yellow bright_blue bright_magenta bright_cyan bright_white grey0 gray0 navy_blue
  dark_blue blue3 blue1 dark_green deep_sky_blue4 dodger_blue3 dodger_blue2 green4 spring_green4
  turquoise4 deep_sky_blue3 dodger_blue1 green3 spring_green3 dark_cyan light_sea_green
  deep_sky_blue2 deep_sky_blue1 spring_green2 cyan3 dark_turquoise turquoise2 green1 spring_green1
  medium_spring_green cyan2 cyan1 dark_red deep_pink4 purple4 purple3 blue_violet orange4 grey37
  gray37 medium_purple4 slate_blue3 royal_blue1 chartreuse4 dark_sea_green4 pale_turquoise4
  steel_blue steel_blue3 cornflower_blue chartreuse3 cadet_blue sky_blue3 steel_blue1 pale_green3
  sea_green3 aquamarine3 medium_turquoise chartreuse2 sea_green2 sea_green1 aquamarine1
  dark_slate_gray2 dark_magenta dark_violet purple light_pink4 plum4 medium_purple3 slate_blue1
  yellow4 wheat4 grey53 gray53 light_slate_grey light_slate_gray medium_purple light_slate_blue
  dark_olive_green3 dark_sea_green light_sky_blue3 sky_blue2 dark_sea_green3 dark_slate_gray3
  sky_blue1 chartreuse1 light_green pale_green1 dark_slate_gray1 red3 medium_violet_red magenta3
  dark_orange3 indian_red hot_pink3 medium_orchid3 medium_orchid medium_purple2 dark_goldenrod
  light_salmon3 rosy_brown grey63 gray63 medium_purple1 gold3 dark_khaki navajo_white3 grey69
  gray69 light_steel_blue3 light_steel_blue yellow3 dark_sea_green2 light_cyan3 light_sky_blue1
  green_yellow dark_olive_green2 dark_sea_green1 pale_turquoise1 deep_pink3 magenta2 hot_pink2
  orchid medium_orchid1 orange3 light_pink3 pink3 plum3 violet light_goldenrod3 tan misty_rose3
  thistle3 plum2 khaki3 light_goldenrod2 light_yellow3 grey84 gray84 light_steel_blue1 yellow2
  dark_olive_green1 honeydew2 light_cyan1 red1 deep_pink2 deep_pink1 magenta1 orange_red1
  indian_red1 hot_pink dark_orange salmon1 light_coral pale_violet_red1 orchid2 orchid1 orange1
  sandy_brown light_salmon1 light_pink1 pink1 plum1 gold1 navajo_white1 misty_rose1 thistle1
  yellow1 light_goldenrod1 khaki1 wheat1 cornsilk1 grey100 gray100 grey3 gray3 grey7 gray7 grey11
  gray11 grey15 gray15 grey19 gray19 grey23 gray23 grey27 gray27 grey30 gray30 grey35 gray35
  grey39 gray39 grey42 gray42 grey46 gray46 grey50 gray50 grey54 gray54 grey58 gray58 grey62
  gray62 grey66 gray66 grey70 gray70 grey74 gray74 grey78 gray78 grey82 gray82 grey85 gray85
  grey89 gray89 grey93 gray93
  "

/-- The names of the colours of the palette, one by one. -/
def palette : List (List Char) :=
  splitBlanks colourNames.toList

/-- Whether the characters are digits that write a number below 256. -/
def isChannel (digits : List Char) : Bool :=
  digits.all Char.isDigit && (String.ofList digits).toNat?.any (fun number => number < 256)

/-- What stands behind an opening, if a closing bracket ends it. -/
def argument? (opening : String) (chars : List Char) : Option (List Char) :=
  let inner := chars.dropLast
  if chars.getLast? = some ')' ∧ opening.toList.isPrefixOf inner then
    some (inner.drop opening.length)
  else
    none

/-- Whether six hexadecimal digits stand behind a number sign. -/
def isHexColour : List Char → Bool
  | '#' :: digits => digits.length = 6 && digits.all (fun c => (hexValue? c).isSome)
  | _ => false

/-- Whether the characters are three numbers with commas between them. -/
def areChannels (chars : List Char) : Bool :=
  (splitOn ',' chars).length = 3 && (splitOn ',' chars).all isChannel

/-- Whether a word in lower case is a colour: one of the palette by name or by number, or one given
by its three channels. -/
def isColour (word : String) : Bool :=
  let chars := word.toList
  word = "default" || palette.contains chars || isHexColour chars ||
    (argument? "color(" chars).any (fun digits => digits.length < 4 && isChannel digits) ||
    (argument? "rgb(" chars).any areChannels

/-- A style. Of an effect that is set more than once the first entry holds. -/
structure Style where
  effects : List (Effect × Bool)
  colour : Option String
  background : Option String
  link : Option String
  deriving DecidableEq, Repr

namespace Style

/-- The style that sets nothing. -/
def plain : Style :=
  ⟨[], none, none, none⟩

def set (style : Style) (effect : Effect) (on : Bool) : Style :=
  { style with effects := (effect, on) :: style.effects }

/-- The style that words add to; `none` if they name no style. -/
def read (style : Style) : List String → Option Style
  | [] => some style
  | word :: rest =>
      let name := lower word
      if name = "on" then
        match rest with
        | [] => none
        | word :: rest =>
            if isColour (lower word) then
              read { style with background := some (lower word) } rest
            else
              none
      else if name = "not" then
        match rest with
        | [] => none
        | word :: rest =>
            match Effect.named? word with
            | some effect => read (style.set effect false) rest
            | none => none
      else if name = "link" then
        match rest with
        | [] => none
        | word :: rest => read { style with link := some word } rest
      else
        match Effect.named? name with
        | some effect => read (style.set effect true) rest
        | none =>
            if isColour name then read { style with colour := some name } rest else none

/-- The words of the normal form. -/
def words (style : Style) : List String :=
  Effect.all.flatMap (fun effect =>
    ((style.effects.lookup effect).map effect.words).getD []) ++
    style.colour.toList ++
    (style.background.map (fun colour => ["on", colour])).getD [] ++
    (style.link.map (fun link => ["link", link])).getD []

def normalForm (name : String) : String :=
  match plain.read ((splitBlanks name.toList).map String.ofList) with
  | some style => if style.words.isEmpty then "none" else " ".intercalate style.words
  | none => lower (trim name)

end Style

end TypeScaffold.Console
