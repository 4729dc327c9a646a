import TypeScaffold.Text.Pieces

/-!
# Lines of a text

Two notions of a line are in use. Generated fragments are laid out by line feeds alone
(`splitLines`, `indent`). Where a fragment is placed into a component, every line boundary of
Unicode ends a line (`paragraphs`, `indentBlock`), so that the placed text holds line feeds only.
-/

namespace TypeScaffold.Text

/-- The pieces between line feeds; there is always at least one. -/
def splitLines (chars : List Char) : List (List Char) :=
  splitOn '\n' chars

/-- Lines put together with a line feed between neighbours. -/
def joinLines (lines : List (List Char)) : List Char :=
  joinWith '\n' lines

/-- Nothing is lost when a text is cut into lines. -/
theorem joinLines_splitLines (chars : List Char) : joinLines (splitLines chars) = chars :=
  joinWith_splitOn '\n' chars

/-- Texts put together with a line feed between neighbours. -/
def unlines (lines : List String) : String :=
  String.intercalate "\n" lines

/-- A line that is not empty moves right by the width; an empty one stays empty. -/
def indentLine (width : Nat) : List Char → List Char
  | [] => []
  | c :: rest => List.replicate width ' ' ++ c :: rest

/-- Every line of the text that is not empty moves right by the width. -/
def indent (width : Nat) (text : String) : String :=
  String.ofList (joinLines ((splitLines text.toList).map (indentLine width)))

/-- Two blanks after each line feed, so that all lines but the first move right by two. -/
def hangChars (chars : List Char) : List Char :=
  chars.flatMap (fun c => if c = '\n' then ['\n', ' ', ' '] else [c])

/-- All lines but the first, empty ones included, move right by two. -/
def hang (text : String) : String :=
  String.ofList (hangChars text.toList)

/-- The characters that end a line in Unicode's sense. -/
def endsLine (c : Char) : Bool :=
  let code := c.toNat
  (10 ≤ code && code ≤ 13) || (28 ≤ code && code ≤ 30) || code == 0x85 || code == 0x2028 ||
    code == 0x2029

/-- The lines of a text in Unicode's sense; carriage return and line feed together end one line,
and nothing follows the last line end. -/
def paragraphs : List Char → List (List Char)
  | [] => []
  | '\r' :: '\n' :: rest => [] :: paragraphs rest
  | c :: rest =>
      if endsLine c then
        [] :: paragraphs rest
      else
        match paragraphs rest with
        | [] => [[c]]
        | line :: lines => (c :: line) :: lines

/-- The text as a block moved right by the width: each line end becomes a line feed, the first line
moves even when it is empty, and of the others only those that are not. -/
def indentBlock (width : Nat) (text : String) : String :=
  match paragraphs (text.toList ++ ['\n']) with
  | [] => ""
  | line :: lines =>
      String.ofList (List.replicate width ' ' ++ joinLines (line :: lines.map (indentLine width)))

/-- Line ends of other systems, a carriage return with or without a line feed, become line
feeds. -/
def normalizeLineEnds : List Char → List Char
  | [] => []
  | '\r' :: '\n' :: rest => '\n' :: normalizeLineEnds rest
  | c :: rest => (if c = '\r' then '\n' else c) :: normalizeLineEnds rest

end TypeScaffold.Text
