import TypeScaffold.Form.Markup
import TypeScaffold.Proofs.Text.Lines

/-!
# How a form shows that a field is required

The markup of a widget has one place that says whether the value is required, or it does not say it
at all; switches and fixed texts do not. An array shows it by a star behind its label.
-/

namespace TypeScaffold

open Text

/-- Whether the markup of the control marks if a value is required. -/
def Control.marksRequired : Control → Bool
  | .boolean | .fixed _ => false
  | _ => true

namespace Widget

/-- The attribute that says whether a value is required. -/
def requiredCode (required : Bool) : String :=
  assign "required" (if required then "true" else "false")

private theorem requiredAttributes_eq (widget : Widget) :
    widget.requiredAttributes = (widget.required.map requiredCode).toList :=
  rfl

private theorem hasPlace_element (tag : String) (attributes : List String) :
    HasPlace requiredCode (fun required =>
      element tag (attributes ++ [requiredCode required])) := by
  have indented : ∀ required, indent 2 (requiredCode required) =
      "  " ++ requiredCode required ++ "" := by
    decide
  have place := ((HasPlace.refl requiredCode).within "  " "").unlines
    (("<" ++ tag) :: attributes.map (indent 2)) ["/>"]
  simpa only [element, List.map_append, List.map_cons, List.map_nil, indented, List.cons_append,
    List.append_assoc, List.nil_append] using place

/-- An element that ends in the validating attributes says once whether the value is required, if no
other attribute depends on it. -/
private theorem hasPlace_validated {front : Bool → List String} (tag : String)
    (independent : ∀ required, front required = front false) (widget : Widget)
    (hint : Option String) :
    HasPlace requiredCode (fun required =>
      element tag
        (front required ++
          { widget with required := some required }.validationAttributes hint)) := by
  have place := hasPlace_element tag
    (front false ++ { widget with required := none }.validationAttributes hint)
  simpa only [independent, validationAttributes, requiredAttributes_eq, Option.map_some,
    Option.map_none, Option.toList_some, Option.toList_none, List.append_assoc, List.nil_append,
    List.append_nil] using place

/-- A tag that ends in the attribute says once whether the value is required, if no other line
depends on it. -/
private theorem hasPlace_tag {front behind : Bool → List String} (tag : String)
    (independent : ∀ required, front required = front false)
    (independentToo : ∀ required, behind required = behind false) :
    HasPlace requiredCode (fun required =>
      unlines ((tag ++ " ".intercalate (front required ++ [requiredCode required]) ++ ">") ::
        behind required)) := by
  have attributes := (HasPlace.refl requiredCode).intercalate " " [] (front false)
  have place := (attributes.within tag ">").unlines [] (behind false)
  simpa only [independent, independentToo, List.nil_append] using place

theorem hasPlace_required {widget : Widget} (marked : widget.control.marksRequired = true) :
    HasPlace requiredCode (fun required => { widget with required := some required }.markup) := by
  obtain ⟨label, binding, required, control⟩ := widget
  let widget : Widget := ⟨label, binding, required, control⟩
  cases control with
  | text => exact hasPlace_validated "TextField" (fun _ => rfl) widget none
  | number => exact hasPlace_validated "TextField" (fun _ => rfl) widget none
  | date => exact hasPlace_validated "TextField" (fun _ => rfl) widget none
  | json => exact hasPlace_validated "TextField" (fun _ => rfl) widget (some "Enter valid JSON")
  | choice options => exact hasPlace_tag "<FormControl " (fun _ => rfl) (fun _ => rfl)
  | boolean => cases marked
  | fixed _ => cases marked

theorem markup_of_silent {widget : Widget} (silent : widget.control.marksRequired = false)
    (required : Option Bool) : { widget with required := required }.markup = widget.markup := by
  obtain ⟨label, binding, _, control⟩ := widget
  cases control with
  | boolean => rfl
  | fixed _ => rfl
  | _ => cases silent

end Widget

/-! ## Arrays -/

/-- The heading of an array: its label, with a star if it is required. -/
def ArrayBlock.heading (label : String) (required : Bool) : String :=
  markupContent (label ++ (if required then " *" else ""))

theorem ArrayBlock.hasPlace_heading (block : ArrayBlock) :
    HasPlace (heading block.label) (fun required => { block with required := required }.markup) := by
  obtain ⟨name, label, _, current, newItem, items⟩ := block
  have place := ((HasPlace.refl (heading label)).within
    r#"    <Typography variant="subtitle1">"# "</Typography>").unlines
  simp only [markup]
  exact place [_, _] _

/-! ## Fields -/

/-- The markup of the field depends in one place, or in none, on whether the field is required, and
is that of a field for which the answer is as given. -/
def FormField.ShowsRequired (required : Bool) : FormField → Prop
  | .widget input =>
      input.required = some required ∧
        ((input.control.marksRequired = true ∧
            HasPlace Widget.requiredCode
              (fun said => { input with required := some said }.markup)) ∨
          (input.control.marksRequired = false ∧
            ∀ said, { input with required := said }.markup = input.markup))
  | .array block =>
      block.required = required ∧
        HasPlace (ArrayBlock.heading block.label)
          (fun said => { block with required := said }.markup)

theorem Widget.showsRequired {widget : Widget} {required : Bool}
    (said : widget.required = some required) : (FormField.widget widget).ShowsRequired required := by
  cases marked : widget.control.marksRequired with
  | true => exact ⟨said, Or.inl ⟨marked, hasPlace_required marked⟩⟩
  | false => exact ⟨said, Or.inr ⟨marked, markup_of_silent marked⟩⟩

/-- Every field is shown as required unless the property is optional. -/
theorem FormField.showsRequired_ofProperty (context : Context) (field : ResolvedProperty) :
    (ofProperty context field).ShowsRequired (!field.optional) := by
  obtain ⟨name, node, optional, nullable⟩ := field
  cases node with
  | array element => exact ⟨rfl, ArrayBlock.hasPlace_heading _⟩
  | _ => exact Widget.showsRequired rfl

end TypeScaffold
