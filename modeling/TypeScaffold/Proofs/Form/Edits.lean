import TypeScaffold.Form.Render
import TypeScaffold.Proofs.Text.Indent

/-!
# The calls by which a form edits

Each widget whose value can be changed calls the store in its markup. The widgets of an array are
those of its rows, or those of its cards and of the objects inside them; what a widget calls stands in
the markup of the array and in the component.
-/

namespace TypeScaffold

open Text

/-- The value can be changed by the control. -/
def Control.IsEditable (control : Control) : Prop :=
  ∀ value, control ≠ .fixed value

/-! ## Widgets of an array -/

def NestedPart.widgets : NestedPart → List Widget
  | .function _ => []
  | .widget input => [input]

def CardPart.widgets : CardPart → List Widget
  | .function _ => []
  | .widget input => [input]
  | .object _ _ parts => parts.flatMap NestedPart.widgets

def ItemView.widgets : ItemView → List Widget
  | .row widget => [widget]
  | .card parts => parts.flatMap CardPart.widgets

/-- The widget edits a part of an item of the array. -/
def Widget.EditsPart (array : String) (widget : Widget) : Prop :=
  (∃ name, widget.binding = .itemProperty array name) ∨
    ∃ object name, widget.binding = .nestedProperty array object name

theorem CardPart.editsPart_of_mem {context : Context} {array : String} {property : Property}
    {widget : Widget} (member : widget ∈ (ofProperty context array property).widgets) :
    widget.EditsPart array := by
  unfold ofProperty at member
  dsimp only at member
  split at member
  · cases member
  · split at member
    · rename_i properties _ _
      obtain ⟨part, there, inPart⟩ := List.mem_flatMap.mp member
      obtain ⟨nested, _, rfl⟩ := List.mem_map.mp there
      unfold NestedPart.ofProperty at inPart
      dsimp only at inPart
      split at inPart
      · cases inPart
      · obtain rfl := List.mem_singleton.mp inPart
        exact Or.inr ⟨_, _, rfl⟩
    · obtain rfl := List.mem_singleton.mp member
      exact Or.inl ⟨_, rfl⟩

theorem FormField.exists_block (context : Context) {field : ResolvedProperty}
    {element : Option TypeNode} (array : field.node = .array element) :
    ∃ block, ofProperty context field = .array block ∧
      block.items = .ofElement context field.name element := by
  unfold ofProperty
  rw [array]
  exact ⟨_, rfl, rfl⟩

/-- A row edits the item as a whole, and the widgets of a card edit parts of it. -/
theorem ItemView.edits_ofElement (context : Context) (array : String) (element : Option TypeNode) :
    ((∃ widget, ofElement context array element = .row widget ∧ widget.binding = .item array) ∧
        element.bind context.openProperties? = none) ∨
      ((∃ parts, ofElement context array element = .card parts ∧
          ∀ widget ∈ parts.flatMap CardPart.widgets, widget.EditsPart array) ∧
        (element.bind context.openProperties?).isSome) := by
  cases opened : element.bind context.openProperties? with
  | none =>
      refine Or.inl ⟨⟨.ofNode none (.item array) none element, ?_, rfl⟩, rfl⟩
      rw [ofElement, opened]
  | some properties =>
      refine Or.inr ⟨⟨properties.map (CardPart.ofProperty context array), ?_, ?_⟩, rfl⟩
      · rw [ofElement, opened]
      · intro widget member
        obtain ⟨part, there, inPart⟩ := List.mem_flatMap.mp member
        obtain ⟨property, _, rfl⟩ := List.mem_map.mp there
        exact CardPart.editsPart_of_mem inPart

/-! ## Calls in the markup -/

section Markup

variable {words : String} (oneLine : IsOneLine words)

namespace Widget

theorem contains_changeAttribute (widget : Widget) (expression : String) :
    Contains (widget.changeAttribute expression) (widget.binding.write expression) := by
  have around := contains_around (r"onChange={(e) => ") (widget.binding.write expression) r"}"
  have text : widget.changeAttribute expression =
      r"onChange={(e) => " ++ widget.binding.write expression ++ r"}" := by
    have opening : r"onChange={(e) => " = "onChange" ++ r"={" ++ "(e) => " := rfl
    rw [changeAttribute, assign, opening]
    simp only [String.append_assoc]
  rw [text]
  exact around

include oneLine in
theorem contains_element {attributes : List String} {part : String}
    (member : part ∈ attributes) (inside : Contains part words) (tag : String) :
    Contains (element tag attributes) words := by
  have line : indent 2 part ∈ ("<" ++ tag) :: attributes.map (indent 2) ++ ["/>"] :=
    List.mem_append_left _ (List.mem_cons_of_mem _ (List.mem_map_of_mem member))
  exact (contains_unlines line).trans (oneLine.contains_indent inside 2)

/-- The expression for the value that is entered in a control. -/
def entered (widget : Widget) : String :=
  match widget.control with
  | .text => "e.target.value"
  | .number => "e.target.value === '' ? 0 : Number(e.target.value)"
  | .boolean => "e.target.checked"
  | .date => "e.target.value ? new Date(e.target.value) : new Date()"
  | .choice _ =>
      match widget.binding.field? with
      | some field => "e.target.value as typeof " ++ field
      | none => "e.target.value"
  | .fixed _ => ""
  | .json => "JSON.parse(e.target.value)"

theorem contains_switchMarkup (widget : Widget)
    (oneLine : IsOneLine (widget.binding.write "e.target.checked")) :
    Contains widget.switchMarkup (widget.binding.write "e.target.checked") := by
  have switch : Contains (element "Switch"
      ([assign "checked" (widget.binding.value ++ " ?? false"),
        widget.changeAttribute "e.target.checked"] ++
          (widget.binding.field?.map blurAttribute).toList))
      (widget.binding.write "e.target.checked") := by
    refine contains_element oneLine ?_ (widget.contains_changeAttribute _) "Switch"
    simp only [List.mem_append, List.mem_cons, true_or, or_true]
  unfold switchMarkup
  cases widget.label with
  | none => exact switch
  | some label =>
      refine Contains.trans (contains_unlines ?_) (oneLine.contains_indent switch 4)
      exact List.mem_cons_of_mem _ (List.mem_cons_of_mem _ List.mem_cons_self)

theorem contains_selectMarkup (widget : Widget) (options : List String) :
    Contains (widget.selectMarkup options) (widget.binding.write
      (match widget.binding.field? with
      | some field => "e.target.value as typeof " ++ field
      | none => "e.target.value")) := by
  have moved (expression : String) :
      Contains ("    " ++ widget.changeAttribute expression) (widget.binding.write expression) := by
    have inside := contains_around "    " (widget.changeAttribute expression) ""
    rw [String.append_empty] at inside
    exact inside.trans (widget.contains_changeAttribute expression)
  unfold selectMarkup
  refine Contains.trans (contains_unlines ?_) (moved _)
  refine List.mem_append_left _ (List.mem_append_left _ ?_)
  unfold selectOpening
  refine List.mem_append_left _ (List.mem_append_right _ (List.mem_map_of_mem ?_))
  cases widget.binding.field? with
  | none => exact List.mem_append_right _ List.mem_cons_self
  | some field => exact List.mem_append_right _ List.mem_cons_self

theorem contains_jsonMarkup (widget : Widget)
    (oneLine : IsOneLine (widget.binding.write "JSON.parse(e.target.value)")) :
    Contains widget.jsonMarkup (widget.binding.write "JSON.parse(e.target.value)") := by
  have inside := contains_around "    " (widget.binding.write "JSON.parse(e.target.value)") ""
  rw [String.append_empty] at inside
  unfold jsonMarkup
  refine contains_element oneLine ?_ inside "TextField"
  simp only [List.mem_append, List.mem_cons, true_or, or_true]

/-- The markup of a widget passes on what is entered, if the call is written on one line. -/
theorem contains_write {widget : Widget} (editable : widget.control.IsEditable)
    (oneLine : IsOneLine (widget.binding.write widget.entered)) :
    Contains widget.markup (widget.binding.write widget.entered) := by
  unfold markup
  unfold entered at oneLine ⊢
  cases control : widget.control with
  | fixed value => exact absurd control (editable value)
  | boolean =>
      rw [control] at oneLine
      exact widget.contains_switchMarkup oneLine
  | choice options => exact widget.contains_selectMarkup options
  | json =>
      rw [control] at oneLine
      exact widget.contains_jsonMarkup oneLine
  | text =>
      rw [control] at oneLine
      dsimp only
      unfold textMarkup
      refine contains_element oneLine ?_ (widget.contains_changeAttribute _) "TextField"
      simp only [List.mem_append, List.mem_cons, true_or, or_true]
  | number =>
      rw [control] at oneLine
      dsimp only
      unfold numberMarkup
      refine contains_element oneLine ?_ (widget.contains_changeAttribute _) "TextField"
      simp only [List.mem_append, List.mem_cons, true_or, or_true]
  | date =>
      rw [control] at oneLine
      dsimp only
      unfold dateMarkup
      refine contains_element oneLine ?_ (widget.contains_changeAttribute _) "TextField"
      simp only [List.mem_append, List.mem_cons, true_or, or_true]

end Widget

end Markup

/-! ## Places of the markup -/

section Places

variable {P : String → Prop} (spreads : Spreads P)

include spreads

theorem CardPart.exists_markup {part : CardPart} {widget : Widget} (member : widget ∈ part.widgets)
    (inside : P widget.markup) : ∃ text, part.markup? = some text ∧ P text := by
  cases part with
  | function name => cases member
  | widget input =>
      obtain rfl := List.mem_singleton.mp member
      exact ⟨_, rfl, inside⟩
  | object name label parts =>
      obtain ⟨nested, there, inNested⟩ := List.mem_flatMap.mp member
      have shown : nested.markup? = some widget.markup := by
        cases nested with
        | function name => cases inNested
        | widget input => rw [List.mem_singleton.mp inNested, NestedPart.markup?]
      have moved : indent 4 widget.markup ∈ (parts.filterMap NestedPart.markup?).map (indent 4) :=
        List.mem_map_of_mem (List.mem_filterMap.mpr ⟨nested, there, shown⟩)
      refine ⟨_, rfl, spreads.outward (contains_unlines ?_) (spreads.moved inside 4)⟩
      exact List.mem_append_left _ (List.mem_append_right _ moved)

theorem ItemView.markup_of_mem {view : ItemView} {widget : Widget} (member : widget ∈ view.widgets)
    (inside : P widget.markup) (array label : String) : P (view.markup array label) := by
  cases view with
  | row input =>
      obtain rfl := List.mem_singleton.mp member
      refine spreads.outward (contains_unlines ?_) (spreads.moved inside 4)
      exact List.mem_cons_of_mem _ (List.mem_cons_of_mem _ List.mem_cons_self)
  | card parts =>
      obtain ⟨part, there, inPart⟩ := List.mem_flatMap.mp member
      obtain ⟨text, shown, insideText⟩ := CardPart.exists_markup spreads inPart inside
      have moved : indent 4 text ∈ (parts.filterMap CardPart.markup?).map (indent 4) :=
        List.mem_map_of_mem (List.mem_filterMap.mpr ⟨part, there, shown⟩)
      refine spreads.outward (contains_unlines ?_) (spreads.moved insideText 4)
      exact List.mem_append_left _ (List.mem_append_right _ moved)

theorem ArrayBlock.markup_of_mem {block : ArrayBlock} {widget : Widget}
    (member : widget ∈ block.items.widgets) (inside : P widget.markup) : P block.markup := by
  have inItems := block.items.markup_of_mem spreads member inside block.name block.label
  refine spreads.outward (contains_unlines ?_) (spreads.moved inItems 6)
  simp only [List.mem_cons, true_or, or_true]

end Places

theorem ArrayBlock.contains_markup {words : String} (oneLine : IsOneLine words)
    {block : ArrayBlock} {widget : Widget} (member : widget ∈ block.items.widgets)
    (inside : Contains widget.markup words) : Contains block.markup words :=
  block.markup_of_mem oneLine.spreads member inside

/-- The markup of a field is a block of the component. -/
theorem Form.contains_block {form : Form} {field : FormField} (member : field ∈ form.fields)
    (options : FormOptions) : Contains (form.code options) (indentBlock 8 field.markup) := by
  have line : indentBlock 8 field.markup ∈
      (form.shell options).fields.flatMap (fun text => ["", indentBlock 8 text]) :=
    List.mem_flatMap.mpr ⟨field.markup, List.mem_map_of_mem member,
      List.mem_cons_of_mem _ List.mem_cons_self⟩
  refine contains_unlines ?_
  exact List.mem_append_left _ (List.mem_append_right _ line)

theorem Form.contains_code {words : String} (oneLine : IsOneLine words) {form : Form}
    {field : FormField} (member : field ∈ form.fields) (inside : Contains field.markup words)
    (options : FormOptions) : Contains (form.code options) words :=
  (contains_block member options).trans (oneLine.contains_indentBlock inside 8)

end TypeScaffold
