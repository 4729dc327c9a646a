import TypeScaffold.Proofs.Form.Build
import TypeScaffold.Proofs.Form.Edits
import TypeScaffold.Proofs.Form.Menu
import TypeScaffold.Proofs.Validator.ChoiceText

/-!
# Closed choices in the schema and in the form

Wherever a form edits a type that is a choice among texts, it has a select for it: for a field, a row,
a property of a card or of an object inside a card. The validator of the type lists the texts. The
select in the component offers the same ones just when laying out the component changes none of them.
-/

namespace TypeScaffold

open Text

/-! ## Widgets of a form -/

def FormField.widgets : FormField → List Widget
  | .widget input => [input]
  | .array block => block.items.widgets

def Form.widgets (form : Form) : List Widget :=
  form.fields.flatMap FormField.widgets

/-- What the form of a declaration edits under a binding, and its type. -/
inductive Declaration.HasPart (context : Context) (declaration : Declaration) :
    Binding → TypeNode → Prop where
  | field {field : FieldSource} (member : field ∈ declaration.fields) :
      HasPart context declaration (.field field.resolved.name) field.resolved.node
  | row {field : FieldSource} {element : TypeNode} (member : field ∈ declaration.fields)
      (array : field.resolved.node = .array (some element))
      (closed : context.openProperties? element = none) :
      HasPart context declaration (.item field.resolved.name) element
  | card {field : FieldSource} {element : TypeNode} {properties : List Property}
      {property : Property} (member : field ∈ declaration.fields)
      (array : field.resolved.node = .array (some element))
      (opened : context.openProperties? element = some properties)
      (inItem : property ∈ properties) :
      HasPart context declaration (.itemProperty field.resolved.name property.name)
        property.resolve.node
  | nested {field : FieldSource} {element : TypeNode} {properties inner : List Property}
      {property part : Property} (member : field ∈ declaration.fields)
      (array : field.resolved.node = .array (some element))
      (opened : context.openProperties? element = some properties)
      (inItem : property ∈ properties)
      (object : context.openProperties? property.resolve.node = some inner)
      (inObject : part ∈ inner) :
      HasPart context declaration
        (.nestedProperty field.resolved.name property.name part.name) part.resolve.node

/-! ## Selects -/

section Selects

variable {context : Context} {node : TypeNode} {choices : List String}

/-- The widget is a select among the choices for what is edited under the binding. -/
def Widget.Selects (widget : Widget) (binding : Binding) (choices : List String) : Prop :=
  widget.binding = binding ∧ widget.control = .choice choices

theorem Control.ofNode?_of_textOptions? (found : node.textOptions? = some choices) :
    ofNode? node = some (.choice choices) := by
  cases node with
  | union members => exact congrArg (Option.map Control.choice) found
  | enumeration members name => exact congrArg (Option.map Control.choice) found
  | _ => cases found

theorem TypeNode.isFunction_of_textOptions? (found : node.textOptions? = some choices) :
    node.isFunction = false := by
  cases node with
  | function => cases found
  | _ => rfl

theorem Widget.selects_ofNode (label : Option String) (binding : Binding) (required : Option Bool)
    (found : node.textOptions? = some choices) :
    (ofNode label binding required (some node)).Selects binding choices := by
  refine ⟨rfl, ?_⟩
  rw [ofNode, Option.bind_some, Control.ofNode?_of_textOptions? found]
  rfl

theorem FormField.exists_selects {field : ResolvedProperty}
    (found : field.node.textOptions? = some choices) :
    ∃ widget ∈ (ofProperty context field).widgets,
      widget.Selects (.field field.name) choices := by
  obtain ⟨name, node, optional, nullable⟩ := field
  have selects := Widget.selects_ofNode (some (title name)) (.field name) (some (!optional)) found
  cases node with
  | array element => cases found
  | _ => exact ⟨_, List.mem_singleton_self _, selects⟩

theorem ItemView.exists_selects_row {array : String} (closed : context.openProperties? node = none)
    (found : node.textOptions? = some choices) :
    ∃ widget ∈ (ofElement context array (some node)).widgets,
      widget.Selects (.item array) choices := by
  refine ⟨_, ?_, Widget.selects_ofNode none (.item array) none found⟩
  rw [ofElement, Option.bind_some, closed]
  exact List.mem_singleton_self _

theorem CardPart.exists_selects {array : String} {property : Property}
    (found : property.resolve.node.textOptions? = some choices) :
    ∃ widget ∈ (ofProperty context array property).widgets,
      widget.Selects (.itemProperty array property.name) choices := by
  have data := TypeNode.isFunction_of_textOptions? found
  refine ⟨_, ?_, Widget.selects_ofNode (some (title property.name)) _ none found⟩
  unfold ofProperty
  simp only [data, Control.ofNode?_of_textOptions? found, Bool.false_eq_true, if_false]
  exact List.mem_singleton_self _

theorem NestedPart.exists_selects {array object : String} {property : Property}
    (found : property.resolve.node.textOptions? = some choices) :
    ∃ widget ∈ (ofProperty array object property).widgets,
      widget.Selects (.nestedProperty array object property.name) choices := by
  have data := TypeNode.isFunction_of_textOptions? found
  refine ⟨_, ?_, Widget.selects_ofNode (some (title property.name)) _ none found⟩
  unfold ofProperty
  simp only [data, Bool.false_eq_true, if_false]
  exact List.mem_singleton_self _

/-- An object that is opened inside a card has the parts for its properties. -/
theorem CardPart.ofProperty_of_openProperties? {array : String} {property : Property}
    {inner : List Property} (object : context.openProperties? property.resolve.node = some inner) :
    ofProperty context array property =
      .object property.name (title property.name)
        (inner.map (NestedPart.ofProperty array property.name)) := by
  have data : property.resolve.node.isFunction = false ∧
      Control.ofNode? property.resolve.node = none := by
    cases node : property.resolve.node with
    | object properties name => exact ⟨rfl, rfl⟩
    | reference name => exact ⟨rfl, rfl⟩
    | _ => rw [node] at object; cases object
  unfold ofProperty
  simp only [data, object, Bool.false_eq_true, if_false]
  rfl

/-- The widgets for the properties of an object are widgets of the part for the object. -/
theorem CardPart.mem_widgets_ofProperty {array : String} {property part : Property}
    {inner : List Property} (object : context.openProperties? property.resolve.node = some inner)
    (inObject : part ∈ inner) {widget : Widget}
    (inNested : widget ∈ (NestedPart.ofProperty array property.name part).widgets) :
    widget ∈ (ofProperty context array property).widgets := by
  rw [ofProperty_of_openProperties? object]
  exact List.mem_flatMap.mpr ⟨_, List.mem_map_of_mem inObject, inNested⟩

/-- The widgets for the properties of an item are widgets of the items. -/
theorem ItemView.mem_widgets_ofElement {array : String} {properties : List Property}
    (opened : context.openProperties? node = some properties) {property : Property}
    (inItem : property ∈ properties) {widget : Widget}
    (inPart : widget ∈ (CardPart.ofProperty context array property).widgets) :
    widget ∈ (ofElement context array (some node)).widgets := by
  rw [ofElement, Option.bind_some, opened]
  exact List.mem_flatMap.mpr ⟨_, List.mem_map_of_mem inItem, inPart⟩

/-- The widgets of the items are widgets of the field. -/
theorem FormField.mem_widgets_ofProperty {field : ResolvedProperty}
    (array : field.node = .array (some node)) {widget : Widget}
    (inItems : widget ∈ (ItemView.ofElement context field.name (some node)).widgets) :
    widget ∈ (ofProperty context field).widgets := by
  obtain ⟨block, view, items⟩ := exists_block context array
  rw [view, widgets, items]
  exact inItems

/-- A form has a select for everything that it edits and that is a choice among texts. -/
theorem Form.exists_selects {declaration : Declaration} {form : Form}
    (made : (build context declaration).result = some form) {binding : Binding}
    (part : declaration.HasPart context binding node)
    (found : node.textOptions? = some choices) :
    ∃ widget ∈ form.widgets, widget.Selects binding choices := by
  obtain ⟨_, _, _, rfl⟩ := result_build_eq_some_iff.mp made
  have inForm {field : FieldSource} (member : field ∈ declaration.fields) {widget : Widget}
      (inField : widget ∈ (FormField.ofProperty context field.resolved).widgets) :
      widget ∈ (ofFields context declaration.name
        (declaration.fields.map FieldSource.resolved)).widgets :=
    List.mem_flatMap.mpr ⟨_, List.mem_map_of_mem (List.mem_map_of_mem member), inField⟩
  cases part with
  | field member =>
      obtain ⟨widget, inField, selects⟩ := FormField.exists_selects found
      exact ⟨widget, inForm member inField, selects⟩
  | row member array closed =>
      obtain ⟨widget, inRow, selects⟩ := ItemView.exists_selects_row closed found
      exact ⟨widget, inForm member (FormField.mem_widgets_ofProperty array inRow), selects⟩
  | card member array opened inItem =>
      obtain ⟨widget, inPart, selects⟩ := CardPart.exists_selects found
      have inCard := ItemView.mem_widgets_ofElement opened inItem inPart
      exact ⟨widget, inForm member (FormField.mem_widgets_ofProperty array inCard), selects⟩
  | nested member array opened inItem object inObject =>
      obtain ⟨widget, inNested, selects⟩ := NestedPart.exists_selects found
      have inPart := CardPart.mem_widgets_ofProperty object inObject inNested
      have inCard := ItemView.mem_widgets_ofElement opened inItem inPart
      exact ⟨widget, inForm member (FormField.mem_widgets_ofProperty array inCard), selects⟩

end Selects

/-! ## Selects in the component -/

theorem Widget.getLast?_selectMarkup (widget : Widget) (choices : List String) :
    (widget.selectMarkup choices).toList.getLast? = some '>' := by
  have bracket : "</FormControl>".toList.getLast? = some '>' := rfl
  obtain ⟨lines, ending⟩ : ∃ lines, widget.selectEnding = lines ++ ["</FormControl>"] := ⟨_, rfl⟩
  refine getLast?_unlines ?_ bracket
  rw [ending, ← List.append_assoc]
  exact List.getLast?_concat

/-- The markup of a select is an element. -/
theorem Widget.exists_core (widget : Widget) (choices : List String) :
    ∃ core, (widget.selectMarkup choices).toList = '<' :: (core ++ ['>']) := by
  have begins : (widget.selectMarkup choices).toList.head? = some '<' := by
    refine head?_unlines ?_ _
    rw [String.toList_append, String.toList_append]
    rfl
  obtain ⟨rest, whole⟩ := List.head?_eq_some_iff.mp begins
  have ends := widget.getLast?_selectMarkup choices
  rw [whole] at ends ⊢
  cases rest with
  | nil => cases ends
  | cons c rest =>
      rw [List.getLast?_cons_cons] at ends
      exact ⟨_, congrArg (List.cons '<') (List.dropLast_append_getLast? '>' ends).symm⟩

/-- The markup of a field with a select ends in a bracket. -/
theorem FormField.getLast?_markup {field : FormField} {widget : Widget} {choices : List String}
    (member : widget ∈ field.widgets) (select : widget.markup = widget.selectMarkup choices) :
    field.markup.toList.getLast? = some '>' := by
  cases field with
  | widget input =>
      obtain rfl := List.mem_singleton.mp member
      rw [markup, select]
      exact widget.getLast?_selectMarkup choices
  | array block =>
      have bracket : "</Box>".toList.getLast? = some '>' := rfl
      rw [markup]
      unfold ArrayBlock.markup
      exact getLast?_unlines rfl bracket

theorem FormField.markup_of_mem {P : String → Prop} (spreads : Spreads P) {field : FormField}
    {widget : Widget} (member : widget ∈ field.widgets) (inside : P widget.markup) :
    P field.markup := by
  cases field with
  | widget input =>
      obtain rfl := List.mem_singleton.mp member
      exact inside
  | array block => exact block.markup_of_mem spreads member inside

/-- The markup of a select is laid out in the component. -/
theorem Form.exists_laidOut {form : Form} {widget : Widget} {choices : List String}
    (member : widget ∈ form.widgets) (select : widget.markup = widget.selectMarkup choices)
    (options : FormOptions) :
    ∃ placed, placed <:+: (form.code options).toList ∧ LaidOut widget.markup.toList placed := by
  obtain ⟨field, inForm, inField⟩ := List.mem_flatMap.mp member
  obtain ⟨core, element⟩ := widget.exists_core choices
  rw [← select] at element
  have moved := field.markup_of_mem (spreads_hasMoved core) inField (.of_toList element)
  have ended : ∀ last ∈ field.markup.toList.getLast?, last ≠ '\r' := by
    rw [field.getLast?_markup inField select]
    rintro last ⟨⟩
    decide
  obtain ⟨placed, block, laidOut⟩ := exists_laidOut_indentBlock (by decide : 0 < 8) ended
  obtain ⟨part, inPlaced, elementLaidOut⟩ := moved.exists_laidOut laidOut
  refine ⟨part, ?_, element ▸ elementLaidOut⟩
  have inBlock := inPlaced.trans (List.suffix_append (List.replicate 8 ' ') placed).isInfix
  rw [← block] at inBlock
  exact inBlock.trans (contains_block inForm options)

section Choices

variable {context : Context} {declaration : Declaration} {form : Form} {binding : Binding}
  {node : TypeNode} {choices : List String}

/-- A select in the component offers its choices just when laying them out changes none of them. -/
theorem Form.exists_offered (made : (build context declaration).result = some form)
    (part : declaration.HasPart context binding node)
    (found : node.textOptions? = some choices) :
    ∃ widget ∈ form.widgets, widget.Selects binding choices ∧
      ∀ options, ∃ opening menu,
        opening ++ menu <:+: (form.code options).toList ∧
        LaidOut widget.markup.toList (opening ++ menu) ∧
        LaidOut (unlines widget.selectOpening).toList opening ∧
        (Widget.offered? menu = some choices ↔ ∀ choice ∈ choices, IsSteady choice) := by
  obtain ⟨widget, member, selects⟩ := exists_selects made part found
  refine ⟨widget, member, selects, fun options => ?_⟩
  have select : widget.markup = widget.selectMarkup choices := by
    rw [Widget.markup, selects.2]
  obtain ⟨placed, inCode, laidOut⟩ := exists_laidOut member select options
  obtain ⟨opening, menu, rfl, before, offered⟩ := Widget.exists_menu (select ▸ laidOut)
  exact ⟨opening, menu, inCode, laidOut, before, offered⟩

/-- Where a form edits a type that is a choice among texts, the validator of the type lists the texts in
order. The select for it offers the same texts just when laying out the component changes none of
them. -/
theorem Form.offers_choices_iff (made : (build context declaration).result = some form)
    (part : declaration.HasPart context binding node)
    (found : node.textOptions? = some choices) :
    Validator.choiceTexts? (Validator.ofNode node).code = some choices ∧
      ∃ widget ∈ form.widgets, widget.Selects binding choices ∧
        ∀ options, ∃ opening menu,
          opening ++ menu <:+: (form.code options).toList ∧
          LaidOut widget.markup.toList (opening ++ menu) ∧
          LaidOut (unlines widget.selectOpening).toList opening ∧
          (Widget.offered? menu = some choices ↔ ∀ choice ∈ choices, IsSteady choice) :=
  ⟨Validator.choiceTexts?_code_ofNode found, exists_offered made part found⟩

end Choices

def textUnion (choices : List String) : TypeNode :=
  .union (choices.map (fun choice => .literal (.text choice)))

/-- Parcels with a size in one of two units. -/
def parcelsProperty : Property :=
  ⟨"parcels", .array (some (.object [⟨"size", .object
    [⟨"unit", textUnion ["cm", "in (\")"], false⟩] none, false⟩] none)), false⟩

def shipmentDeclaration : Declaration where
  name := "Shipment"
  type := .object [parcelsProperty] none
  dependencies := []
  exported := true

/-- The unit of an object inside a card is chosen among the texts that the validator lists, one of them
with a double quote. -/
theorem shipment_select_offers_units :
    ∃ form, (Form.build ⟨[], [], []⟩ shipmentDeclaration).result = some form ∧
      Validator.choiceTexts? (Validator.ofNode (textUnion ["cm", "in (\")"])).code =
        some ["cm", "in (\")"] ∧
      ∃ widget ∈ form.widgets,
        widget.Selects (.nestedProperty "parcels" "size" "unit") ["cm", "in (\")"] ∧
        ∃ opening menu, opening ++ menu <:+: (form.code FormOptions.standard).toList ∧
          LaidOut (unlines widget.selectOpening).toList opening ∧
          Widget.offered? menu = some ["cm", "in (\")"] := by
  have distinct : shipmentDeclaration.members.Nodup := by decide +kernel
  have apart : ∀ name ∈ shipmentDeclaration.selectors, name ∉ formLocals := by decide +kernel
  have made : (Form.build ⟨[], [], []⟩ shipmentDeclaration).result = some _ :=
    Form.result_build_eq_some_iff.mpr ⟨rfl, distinct, apart, rfl⟩
  have parcels : ⟨parcelsProperty, parcelsProperty.resolve⟩ ∈ shipmentDeclaration.fields :=
    List.mem_cons_self
  have unit := @Declaration.HasPart.nested ⟨[], [], []⟩ _ _ _ _ _ _ _ parcels rfl rfl
    List.mem_cons_self rfl List.mem_cons_self
  have part : shipmentDeclaration.HasPart ⟨[], [], []⟩ (.nestedProperty "parcels" "size" "unit")
      (textUnion ["cm", "in (\")"]) :=
    unit
  have steady : ∀ choice ∈ ["cm", "in (\")"], IsSteady choice := by decide +kernel
  obtain ⟨listed, widget, member, selects, places⟩ := Form.offers_choices_iff made part rfl
  obtain ⟨opening, menu, inCode, _, before, offered⟩ := places FormOptions.standard
  exact ⟨_, made, listed, widget, member, selects, opening, menu, inCode, before,
    offered.mpr steady⟩

def stageProperty : Property :=
  ⟨"stage", textUnion ["draft\nreview", "done"], false⟩

def taskDeclaration : Declaration where
  name := "Task"
  type := .object [stageProperty] none
  dependencies := []
  exported := true

/-- A stage of a task with a line feed is listed by the validator, but the select offers another text in
its place. -/
theorem task_select_offers_other_stages :
    ∃ form, (Form.build ⟨[], [], []⟩ taskDeclaration).result = some form ∧
      Validator.choiceTexts? (Validator.ofNode (textUnion ["draft\nreview", "done"])).code =
        some ["draft\nreview", "done"] ∧
      ∃ widget ∈ form.widgets, widget.Selects (.field "stage") ["draft\nreview", "done"] ∧
        ∃ opening menu, opening ++ menu <:+: (form.code FormOptions.standard).toList ∧
          LaidOut widget.markup.toList (opening ++ menu) ∧
          LaidOut (unlines widget.selectOpening).toList opening ∧
          Widget.offered? menu ≠ some ["draft\nreview", "done"] := by
  have distinct : taskDeclaration.members.Nodup := by decide +kernel
  have apart : ∀ name ∈ taskDeclaration.selectors, name ∉ formLocals := by decide +kernel
  have made : (Form.build ⟨[], [], []⟩ taskDeclaration).result = some _ :=
    Form.result_build_eq_some_iff.mpr ⟨rfl, distinct, apart, rfl⟩
  have stage : ⟨stageProperty, stageProperty.resolve⟩ ∈ taskDeclaration.fields :=
    List.mem_cons_self
  have part : taskDeclaration.HasPart ⟨[], [], []⟩ (.field "stage")
      (textUnion ["draft\nreview", "done"]) :=
    .field stage
  have unsteady : ¬ ∀ choice ∈ ["draft\nreview", "done"], IsSteady choice := by decide +kernel
  obtain ⟨widget, member, selects, places⟩ := Form.exists_offered made part rfl
  obtain ⟨opening, menu, inCode, laidOut, before, offered⟩ := places FormOptions.standard
  exact ⟨_, made, Validator.choiceTexts?_code_ofNode rfl, widget, member, selects, opening, menu,
    inCode, laidOut, before, fun same => unsteady (offered.mp same)⟩

end TypeScaffold
