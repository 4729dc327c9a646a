import TypeScaffold.Console.Emoji
import TypeScaffold.Console.Style

/-!
# Markup

Printed text is marked up with tags in square brackets: the name of a style opens it, and a tag that
begins with a slash closes the style of that name, or the innermost one if it names none. A
backslash before a tag makes it plain text, and of two backslashes there one is left. Nothing is
drawn in colour here, so all that is left of a tag is that a closing one needs an open one.

A text is first divided into parts: what is written like a tag, with the backslashes before it, and
what stands between. `chars_parts` says that the division loses nothing. `escape` puts a backslash
before each tag, so that no tag is left.
-/

namespace TypeScaffold.Console.Markup

open Text

/-- A part of a text: plain characters, or the body of what is written like a tag, with the number
of backslashes before it. -/
inductive Part where
  | plain (chars : List Char)
  | tag (slashes : Nat) (body : List Char)
  deriving DecidableEq, Repr

/-- The characters that a body between brackets stands in. -/
def bracketed (body : List Char) : List Char :=
  '[' :: body ++ [']']

def Part.chars : Part → List Char
  | .plain chars => chars
  | .tag slashes body => List.replicate slashes '\\' ++ bracketed body

/-- The number of backslashes at the end. -/
def slashesAtEnd (chars : List Char) : Nat :=
  (chars.reverse.takeWhile (· = '\\')).length

/-- Whether the body of a tag may begin with the character. -/
def beginsTag (c : Char) : Bool :=
  ('a' ≤ c && c ≤ 'z') || c = '#' || c = '/' || c = '@'

/-- The body of the tag that begins right before the characters, and the characters behind it. The
characters hold no opening bracket. -/
def tagBody? (chars : List Char) : Option (List Char × List Char) :=
  (splitFirst? ']' chars).filter (fun (body, _) => body.head?.any beginsTag)

/-- The part of plain characters, unless there are none. -/
def plainPart (chars : List Char) : List Part :=
  if chars.isEmpty then [] else [.plain chars]

/-- The parts of plain characters and of the pieces behind them, each of which stands behind an
opening bracket. -/
def partsAfter (plain : List Char) : List (List Char) → List Part
  | [] => plainPart plain
  | piece :: pieces =>
      match tagBody? piece with
      | some (body, rest) =>
          let slashes := slashesAtEnd plain
          plainPart (plain.take (plain.length - slashes)) ++
            .tag slashes body :: partsAfter rest pieces
      | none => partsAfter (plain ++ '[' :: piece) pieces

def parts (text : List Char) : List Part :=
  match splitOn '[' text with
  | [] => []
  | plain :: pieces => partsAfter plain pieces

/-! ## The parts make up the text -/

theorem eq_of_tagBody? {chars body rest : List Char} (found : tagBody? chars = some (body, rest)) :
    chars = body ++ ']' :: rest :=
  eq_of_splitFirst? (Option.filter_eq_some_iff.1 found).1

theorem take_append_slashesAtEnd (chars : List Char) :
    chars.take (chars.length - slashesAtEnd chars) ++
      List.replicate (slashesAtEnd chars) '\\' = chars := by
  have slashes : chars.reverse.takeWhile (· = '\\') =
      List.replicate (slashesAtEnd chars) '\\' :=
    List.eq_replicate_iff.2 ⟨rfl, fun c member => by
      simpa using List.all_eq_true.1 (List.all_takeWhile (p := (· = '\\'))) c member⟩
  have whole := List.takeWhile_append_dropWhile (p := (· = '\\')) (l := chars.reverse)
  rw [slashes] at whole
  have parted : chars = (chars.reverse.dropWhile (· = '\\')).reverse ++
      List.replicate (slashesAtEnd chars) '\\' := by
    simpa using (congrArg List.reverse whole).symm
  generalize slashesAtEnd chars = count at parted ⊢
  rw [parted]
  simp

@[simp]
theorem chars_plainPart (chars : List Char) : (plainPart chars).flatMap Part.chars = chars := by
  cases chars <;> simp [plainPart, Part.chars]

theorem chars_partsAfter (plain : List Char) (pieces : List (List Char)) :
    (partsAfter plain pieces).flatMap Part.chars =
      plain ++ pieces.flatMap (fun piece => '[' :: piece) := by
  induction pieces generalizing plain with
  | nil => simp [partsAfter]
  | cons piece pieces inductionHypothesis =>
      cases found : tagBody? piece with
      | none => simp [partsAfter, found, inductionHypothesis]
      | some parted =>
          obtain ⟨body, rest⟩ := parted
          have slashes := take_append_slashesAtEnd plain
          simp only [partsAfter, found, List.flatMap_append, List.flatMap_cons, chars_plainPart,
            Part.chars, bracketed, inductionHypothesis]
          simp only [eq_of_tagBody? found, List.append_assoc, List.cons_append, List.nil_append]
          rw [← List.append_assoc, slashes]

/-- Nothing is lost when a text is divided into parts. -/
theorem chars_parts (text : List Char) : (parts text).flatMap Part.chars = text := by
  have whole := joinWith_splitOn '[' text
  cases pieces : splitOn '[' text with
  | nil => exact absurd pieces (splitOn_ne_nil '[' text)
  | cons plain others =>
      rw [pieces, joinWith_cons] at whole
      simpa [parts, pieces, chars_partsAfter] using whole

/-! ## Escaping -/

/-- The part as plain text: each backslash before a tag is doubled, and one is added. -/
def Part.escaped : Part → List Char
  | .plain chars => chars
  | .tag slashes body => List.replicate (2 * slashes + 1) '\\' ++ bracketed body

/-- The text with its tags as plain text. A lone backslash at the end is doubled, so that it is none
before a tag that follows. -/
def escape (text : List Char) : List Char :=
  let escaped := (parts text).flatMap Part.escaped
  if slashesAtEnd escaped = 1 then escaped ++ ['\\'] else escaped

/-! ## Rendering -/

/-- Why a text cannot be rendered: a closing tag, and how many characters stand before it. -/
inductive Fault where
  | notOpen (body : List Char) (position : Nat)
  | nothingOpen (position : Nat)
  deriving DecidableEq, Repr

def Fault.message : Fault → String
  | .notOpen body position =>
      "closing tag '" ++ String.ofList (bracketed body) ++ "' at position " ++ toString position ++
        " doesn't match any open tag"
  | .nothingOpen position =>
      "closing tag '[/]' at position " ++ toString position ++ " has nothing to close"

/-- The styles, innermost first, that are open behind a tag at a position. -/
def openAfter (styles : List String) (position : Nat) (body : List Char) :
    Except Fault (List String) :=
  match body.takeWhile (· ≠ '=') with
  | '/' :: name =>
      let name := trim (String.ofList name)
      if name = "" then
        match styles with
        | [] => .error (.nothingOpen position)
        | _ :: outer => .ok outer
      else
        let style := Style.normalForm name
        if styles.contains style then .ok (styles.erase style)
        else .error (.notOpen body position)
  | name => .ok (Style.normalForm (String.ofList name) :: styles)

/-- Opening brackets without the backslash before them. -/
def plainBrackets : List Char → List Char
  | [] => []
  | '\\' :: '[' :: rest => '[' :: plainBrackets rest
  | c :: rest => c :: plainBrackets rest

/-- The controls that do not reach the console: bell, backspace, vertical tab, form feed and
carriage return. -/
def isSwallowed (c : Char) : Bool :=
  let code := c.toNat
  code = 7 || code = 8 || code = 11 || code = 12 || code = 13

/-- What plain characters look like. -/
def shown (chars : List Char) : List Char :=
  (Emoji.replace (plainBrackets chars)).filter (fun c => !isSwallowed c)

/-- What parts look like, where the styles are open and `position` characters stand before. -/
def renderParts (styles : List String) (position : Nat) : List Part → Except Fault (List Char)
  | [] => .ok []
  | .plain chars :: rest =>
      (renderParts styles (position + chars.length) rest).map (fun text => shown chars ++ text)
  | .tag slashes body :: rest => do
      let literal := List.replicate (slashes / 2) '\\'
      let place := position + slashes
      let next := place + (bracketed body).length
      if slashes % 2 = 1 then
        return literal ++ shown (bracketed body) ++ (← renderParts styles next rest)
      else
        return literal ++ (← renderParts (← openAfter styles place body) next rest)

/-- What a text looks like. Styles may be left open. -/
def render (text : List Char) : Except Fault (List Char) :=
  renderParts [] 0 (parts text)

def styled (style : String) (text : List Char) : List Char :=
  bracketed style.toList ++ text ++ bracketed ('/' :: style.toList)

end TypeScaffold.Console.Markup
