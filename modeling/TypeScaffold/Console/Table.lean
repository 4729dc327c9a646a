import TypeScaffold.Console.Message
import TypeScaffold.Generation.Report

/-!
# Tables

A table of two columns, headed Item and Value, under a centred title. Each column is as wide as its
widest cell. Labels and values are escaped; the title is markup. An item keeps to its line, a value
is wrapped, and what is still too wide, because a tab or a line boundary in it was not counted, is
abbreviated.
-/

namespace TypeScaffold.Console

open Text

/-- What the label or the value of a row looks like. -/
def renderCell (text : String) : Except Markup.Fault (List Char) :=
  Markup.render (Markup.escape text.toList)

/-- What the label and the value of a row look like. -/
def renderRow (entry : String × String) : Except Markup.Fault (List Char × List Char) := do
  return (← renderCell entry.1, ← renderCell entry.2)

/-- The cells that a column of texts takes without its margins. Every line boundary of Unicode ends
a line here. -/
def columnWidth (texts : List (List Char)) : Nat :=
  ((texts.flatMap paragraphs).map cells).foldl max 0

def itemLines (width : Nat) (text : List Char) : List (List Char) :=
  (splitLines text).map (fun line => abbreviate width (expandTabs line))

def valueLines (width : Nat) (text : List Char) : List (List Char) :=
  (wrap .whole width text).map (abbreviate width)

/-- One line of a row between the given strokes. -/
def rowLine (stroke : Char) (widths : Nat × Nat) (left right : List Char) : List Char :=
  [stroke, ' '] ++ padRight widths.1 left ++ [' ', stroke, ' '] ++ padRight widths.2 right ++
    [' ', stroke]

def row (stroke : Char) (widths : Nat × Nat) (entry : List Char × List Char) :
    List (List Char) :=
  let left := itemLines widths.1 entry.1
  let right := valueLines widths.2 entry.2
  (List.range (max left.length right.length)).map (fun index =>
    rowLine stroke widths (left.getD index []) (right.getD index []))

/-- A line between rows. -/
def rule (first stroke middle last : Char) (widths : Nat × Nat) : List Char :=
  [first] ++ List.replicate (widths.1 + 2) stroke ++ [middle] ++
    List.replicate (widths.2 + 2) stroke ++ [last]

/-- The title wrapped and centred over a table of the given width. -/
def titleLines (width : Nat) (title : List Char) : List (List Char) :=
  (wrap .folded width title).map (fun line => centre width (cut width (trimEnd line)))

def headings : List Char × List Char :=
  ("Item".toList, "Value".toList)

def tableLines (rows : List (List Char × List Char)) (widths : Nat × Nat) : List (List Char) :=
  [rule '┏' '━' '┳' '┓' widths] ++ row '┃' widths headings ++
    [rule '┡' '━' '╇' '┩' widths] ++ rows.flatMap (row '│' widths) ++
    [rule '└' '─' '┴' '┘' widths]

/-- The text of a table, with an empty line behind it. An empty title takes no line. -/
def printTable (title : String) (rows : Keyed String) : Except Markup.Fault String := do
  let rows ← rows.mapM renderRow
  let widths := (columnWidth (headings.1 :: rows.map Prod.fst),
    columnWidth (headings.2 :: rows.map Prod.snd))
  let heading ← if title = "" then pure [] else
    (Markup.render title.toList).map (titleLines (widths.1 + widths.2 + 7))
  return String.ofList (joinLines (heading ++ tableLines rows widths) ++ ['\n', '\n'])

/-- The title of a table that is given none. -/
def standardTitle : String :=
  "Summary"

/-- The text that sums up a report: the counts, and then every warning, or that there is none. -/
def printReport (width : Nat) (report : Report) : Except Markup.Fault String := do
  let counts ← printTable "Generation Summary" report.summary
  let messages ← if report.warnings.isEmpty then
      (printMessage width .success
        ("Generated " ++ toString report.artifacts.length ++ " artifact(s) without warnings")).map
          (fun message => [message])
    else
      report.warnings.mapM (printMessage width .warning)
  return counts ++ String.join messages

end TypeScaffold.Console
