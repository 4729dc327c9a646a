import TypeScaffold.Text.Blank
import TypeScaffold.Text.CaseTable

/-!
# Letter case

Upper and lower case as Unicode defines them for whole texts: one letter may become several
(`ß` is `SS` in upper case), and a capital sigma at the end of a word becomes the final sigma.
`capitalize` and `title` are the two forms in which names reach the generated text.
-/

namespace TypeScaffold.Text

open CaseTable

/-- The image of a code point under a table of runs; a code point in no run stays as it is. -/
def shifted (runs : List (Nat × Nat × Nat × Int)) (code : Nat) : Nat :=
  match runs.find? (fun (first, last, step, _) =>
      first ≤ code && code ≤ last && (code - first) % step == 0) with
  | some (_, _, _, shift) => (code + shift).toNat
  | none => code

/-- Whether some range of the table holds the code point. -/
def inRanges (ranges : List (Nat × Nat)) (code : Nat) : Bool :=
  ranges.any (fun (first, last) => first ≤ code && code ≤ last)

/-- The upper-case form of one character. -/
def upperChar (c : Char) : List Char :=
  match upperExpansions.find? (fun (code, _) => code == c.toNat) with
  | some (_, codes) => codes.map Char.ofNat
  | none => [Char.ofNat (shifted upperRuns c.toNat)]

/-- Whether the nearest character that is not passed over is a letter with case. -/
def meetsCased (chars : List Char) : Bool :=
  match chars.dropWhile (fun c => inRanges ignorableRanges c.toNat) with
  | [] => false
  | c :: _ => inRanges casedRanges c.toNat

/-- The lower-case form of one character between the characters before it, nearest first, and
those after it. -/
def lowerChar (before : List Char) (c : Char) (after : List Char) : List Char :=
  if c.toNat = 0x130 then
    ['i', Char.ofNat 0x307]
  else if c.toNat = 0x3A3 ∧ meetsCased before ∧ ¬ meetsCased after then
    [Char.ofNat 0x3C2]
  else
    [Char.ofNat (shifted lowerRuns c.toNat)]

/-- The lower-case form of a text that follows the characters `before`, nearest first. -/
def lowerAfter (before : List Char) : List Char → List Char
  | [] => []
  | c :: rest => lowerChar before c rest ++ lowerAfter (c :: before) rest

/-- The lower-case form of a text. -/
def lower (text : String) : String :=
  String.ofList (lowerAfter [] text.toList)

/-- The first character in upper case, the others unchanged. -/
def capitalizeChars : List Char → List Char
  | [] => []
  | c :: rest => upperChar c ++ rest

/-- The text with its first character in upper case. -/
def capitalize (text : String) : String :=
  String.ofList (capitalizeChars text.toList)

/-- A blank before each capital letter of the Latin alphabet. -/
def spaceCapitals (chars : List Char) : List Char :=
  chars.flatMap (fun c => if 'A' ≤ c ∧ c ≤ 'Z' then [' ', c] else [c])

/-- An identifier as a heading: `camelCase` becomes `Camel Case`. -/
def title (text : String) : String :=
  String.ofList (trimBoth (capitalizeChars (spaceCapitals text.toList)))

end TypeScaffold.Text
