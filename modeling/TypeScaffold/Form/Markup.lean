import TypeScaffold.Form.Basic
import TypeScaffold.Text.Lines
import TypeScaffold.Text.Quoted

/-!
# Markup of widgets

The markup of each control. A widget that edits a field of the state also reports when it is left
and shows the field's error; widgets inside an array are compact and do neither.
-/

namespace TypeScaffold

open Text

namespace Binding

/-- The expression for the value that is edited. -/
def value : Binding → String
  | .field name => name
  | .item _ => "item"
  | .itemProperty _ name => "item." ++ name
  | .nestedProperty _ object name => "item." ++ object ++ "?." ++ name

/-- The call that replaces the value by that of an expression. -/
def write (expression : String) : Binding → String
  | .field name => setMember name ++ "(" ++ expression ++ ")"
  | .item array => ArrayAction.updateAt.member array ++ "(index, " ++ expression ++ ")"
  | .itemProperty array name =>
      ArrayAction.updateAt.member array ++ r"(index, { " ++ name ++ ": " ++ expression ++ r" })"
  | .nestedProperty array object name =>
      ArrayAction.updateAt.member array ++ r"(index, { " ++ object ++ r": { ...item." ++ object ++
        ", " ++ name ++ ": " ++ expression ++ r" } })"

/-- The field of the state, if the binding is to one. -/
def field? : Binding → Option String
  | .field name => some name
  | _ => none

end Binding

namespace Widget

/-- An element without content, with each attribute on lines of its own. -/
def element (tag : String) (attributes : List String) : String :=
  unlines (("<" ++ tag) :: attributes.map (indent 2) ++ ["/>"])

/-- An attribute to which an expression is assigned. -/
def assign (name expression : String) : String :=
  name ++ r"={" ++ expression ++ r"}"

/-- Whether the widget stands inside an array. -/
def isCompact (widget : Widget) : Bool :=
  widget.binding.field?.isNone

def sizeAttributes (widget : Widget) : List String :=
  if widget.isCompact then ["size=\"small\""] else []

/-- The attribute for the label, if there is one. -/
def labelAttributes (widget : Widget) : List String :=
  (widget.label.map (fun label => "label=" ++ markupAttribute label)).toList

/-- The attributes that all text inputs begin with. -/
def commonAttributes (widget : Widget) : List String :=
  "fullWidth" :: widget.sizeAttributes ++ widget.labelAttributes

/-- Whether a field has been left with an error. -/
def errorTest (field : String) : String :=
  "touched['" ++ field ++ "'] && !!errors['" ++ field ++ "']"

/-- The error of a field that has been left. -/
def errorText (field : String) : String :=
  "touched['" ++ field ++ "'] && errors['" ++ field ++ "']"

/-- The call for a field that is being left. -/
def blurAttribute (field : String) : String :=
  assign "onBlur" ("() => handleBlur('" ++ field ++ "')")

/-- The attribute that says whether a value is required, if that is said. -/
def requiredAttributes (widget : Widget) : List String :=
  (widget.required.map (fun required =>
    assign "required" (if required then "true" else "false"))).toList

/-- The attributes with which all text inputs end. A hint stands in the place of the error as long
as there is none. -/
def validationAttributes (widget : Widget) (hint : Option String) : List String :=
  (match widget.binding.field? with
  | none => []
  | some field =>
      [blurAttribute field, assign "error" (errorTest field),
        assign "helperText"
          (match hint with
          | none => errorText field
          | some hint =>
              "touched['" ++ field ++ "'] ? errors['" ++ field ++ "'] || '" ++ hint ++ "' : '" ++
                hint ++ "'")]) ++ widget.requiredAttributes

/-- The attribute that writes an expression of the event `e` when the input changes. -/
def changeAttribute (widget : Widget) (expression : String) : String :=
  assign "onChange" ("(e) => " ++ widget.binding.write expression)

/-- The attribute for the value, with an expression for a value that is missing. -/
def valueAttribute (widget : Widget) (missing : String) : String :=
  assign "value" (widget.binding.value ++ " ?? " ++ missing)

def textMarkup (widget : Widget) : String :=
  element "TextField"
    (widget.commonAttributes ++
      [widget.valueAttribute "''", widget.changeAttribute "e.target.value"] ++
      widget.validationAttributes none)

/-- A number input; an emptied one counts as zero. -/
def numberMarkup (widget : Widget) : String :=
  element "TextField"
    (widget.commonAttributes ++
      ["type=\"number\"", widget.valueAttribute "''",
        widget.changeAttribute "e.target.value === '' ? 0 : Number(e.target.value)"] ++
      widget.validationAttributes none)

/-- A date input; an emptied one counts as today. -/
def dateMarkup (widget : Widget) : String :=
  let value := widget.binding.value
  element "TextField"
    (widget.commonAttributes ++
      ["type=\"date\"",
        assign "value"
          (value ++ " instanceof Date ? " ++ value ++ ".toISOString().split('T')[0] : ''"),
        widget.changeAttribute "e.target.value ? new Date(e.target.value) : new Date()",
        r"slotProps={{ inputLabel: { shrink: true } }}"] ++
      widget.validationAttributes none)

/-- A text that is shown and cannot be changed. -/
def fixedMarkup (widget : Widget) (value : String) : String :=
  element "TextField"
    (widget.commonAttributes ++
      [widget.valueAttribute (doubleQuoted value), r"slotProps={{ input: { readOnly: true } }}"])

/-- A switch, with its label beside it if there is one. -/
def switchMarkup (widget : Widget) : String :=
  let switch :=
    element "Switch"
      ([assign "checked" (widget.binding.value ++ " ?? false"),
        widget.changeAttribute "e.target.checked"] ++
        (widget.binding.field?.map blurAttribute).toList)
  match widget.label with
  | none => switch
  | some label =>
      unlines
        ["<FormControlLabel",
          r"  control={",
          indent 4 switch,
          r"  }",
          "  label=" ++ markupAttribute label,
          "/>"]

/-- One choice of a select. -/
def optionMarkup (option : String) : String :=
  "<MenuItem value=" ++ markupAttribute option ++ ">" ++ markupContent (title option) ++
    "</MenuItem>"

/-- The lines of a select in front of its choices. -/
def selectOpening (widget : Widget) : List String :=
  let field := widget.binding.field?
  let control :=
    "fullWidth" :: widget.sizeAttributes ++
      (field.map (fun field => assign "error" (errorTest field))).toList ++
      widget.requiredAttributes
  let select :=
    widget.valueAttribute "''" :: widget.labelAttributes ++
      (match field with
      | some field =>
          [widget.changeAttribute ("e.target.value as typeof " ++ field), blurAttribute field]
      | none => [widget.changeAttribute "e.target.value"])
  ["<FormControl " ++ " ".intercalate control ++ ">"] ++
    (widget.label.map (fun label =>
      "  <InputLabel>" ++ markupContent label ++ "</InputLabel>")).toList ++
    ["  <Select"] ++ select.map ("    " ++ ·) ++ ["  >"]

/-- The lines of a select behind its choices. -/
def selectEnding (widget : Widget) : List String :=
  ["  </Select>"] ++
    (match widget.binding.field? with
    | some field =>
        [r"  {" ++ errorText field ++ " && (",
          r"    <FormHelperText>{errors['" ++ field ++ r"']}</FormHelperText>",
          r"  )}"]
    | none => []) ++
    ["</FormControl>"]

/-- A select among texts. -/
def selectMarkup (widget : Widget) (options : List String) : String :=
  unlines
    (widget.selectOpening ++ options.map (fun option => "    " ++ optionMarkup option) ++
      widget.selectEnding)

/-- An editor for raw JSON; a text that cannot be read leaves the last value. -/
def jsonMarkup (widget : Widget) : String :=
  element "TextField"
    (widget.commonAttributes ++
      ["multiline",
        if widget.isCompact then r"rows={2}" else r"rows={4}",
        assign "value" ("JSON.stringify(" ++ widget.binding.value ++ " ?? null, null, 2)"),
        r"onChange={(e) => {",
        r"  try {",
        "    " ++ widget.binding.write "JSON.parse(e.target.value)",
        r"  } catch {",
        "    // keep the last valid value",
        r"  }",
        r"}}"] ++
      widget.validationAttributes (some "Enter valid JSON"))

def markup (widget : Widget) : String :=
  match widget.control with
  | .text => widget.textMarkup
  | .number => widget.numberMarkup
  | .boolean => widget.switchMarkup
  | .date => widget.dateMarkup
  | .choice options => widget.selectMarkup options
  | .fixed value => widget.fixedMarkup value
  | .json => widget.jsonMarkup

end Widget

/-! ## Arrays -/

def removeButton (array : String) : String :=
  unlines
    ["<IconButton",
      "  size=\"small\"",
      "  color=\"error\"",
      "  aria-label=\"Remove\"",
      r"  onClick={() => " ++ ArrayAction.removeAt.member array ++ r"(index)}",
      ">",
      "  <DeleteIcon />",
      "</IconButton>"]

/-- The markup of a part of an object inside a card. -/
def NestedPart.markup? : NestedPart → Option String
  | .function _ => none
  | .widget input => some input.markup

def CardPart.markup? : CardPart → Option String
  | .function _ => none
  | .widget input => some input.markup
  | .object _ label parts =>
      some (unlines
        ([r"<Box sx={{ border: 1, borderColor: 'divider', borderRadius: 1, p: 2 }}>",
          r#"  <Typography variant="subtitle2" sx={{ mb: 1 }}>"# ++ markupContent label ++
            "</Typography>",
          r"  <Stack spacing={1}>"] ++
          (parts.filterMap NestedPart.markup?).map (indent 4) ++
          ["  </Stack>", "</Box>"]))

def ItemView.markup (array label : String) : ItemView → String
  | .row widget =>
      unlines
        [r#"<Stack key={index} direction="row" spacing={1} alignItems="center">"#,
          r"  <Box sx={{ flex: 1 }}>",
          indent 4 widget.markup,
          "  </Box>",
          indent 2 (removeButton array),
          "</Stack>"]
  | .card parts =>
      unlines
        ([r#"<Card key={index} variant="outlined" sx={{ p: 2 }}>"#,
          r"  <Stack spacing={2}>",
          r#"    <Stack direction="row" justifyContent="space-between" alignItems="center">"#,
          r#"      <Typography variant="subtitle2" color="text.secondary">"#,
          "        " ++ markupContent label ++ r" #{index + 1}",
          "      </Typography>",
          indent 6 (removeButton array),
          "    </Stack>"] ++
          (parts.filterMap CardPart.markup?).map (indent 4) ++
          ["  </Stack>", "</Card>"])

def ItemView.spacing : ItemView → String
  | .row _ => "1"
  | .card _ => "2"

def ArrayBlock.markup (block : ArrayBlock) : String :=
  let name := block.name
  unlines
    [r"<Box onBlur={() => handleBlur('" ++ name ++ r"')}>",
      r#"  <Stack direction="row" alignItems="center" justifyContent="space-between" sx={{ mb: 1 }}>"#,
      r#"    <Typography variant="subtitle1">"# ++
        markupContent (block.label ++ (if block.required then " *" else "")) ++ "</Typography>",
      r#"    <Button size="small" startIcon={<AddIcon />} onClick={() => "# ++
        ArrayAction.append.member name ++ "(" ++ block.newItem.code ++ r")}>",
      "      Add",
      "    </Button>",
      "  </Stack>",
      r"  {" ++ Widget.errorText name ++ " && (",
      r"    <FormHelperText error>{errors['" ++ name ++ r"']}</FormHelperText>",
      r"  )}",
      r"  <Stack spacing={" ++ block.items.spacing ++ r"}>",
      r"    {" ++ block.current ++ ".map((item, index) => (",
      indent 6 (block.items.markup name block.label),
      r"    ))}",
      r"    {" ++ block.current ++ ".length === 0 && (",
      r#"      <Typography variant="body2" color="text.secondary" sx={{ py: 2, textAlign: 'center' }}>"#,
      "        No items. Click \"Add\" to add one.",
      "      </Typography>",
      r"    )}",
      "  </Stack>",
      "</Box>"]

def FormField.markup : FormField → String
  | .widget input => input.markup
  | .array block => block.markup

end TypeScaffold
