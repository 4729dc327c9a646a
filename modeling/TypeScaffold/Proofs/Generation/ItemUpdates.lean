import TypeScaffold.Proofs.Form.Edits
import TypeScaffold.Proofs.Generation.OptionalFields
import TypeScaffold.Proofs.Model.Merging

/-!
# How items are updated

The widgets of a card pass a part of the item to the update of the store, which merges it. The widget
of a row passes a whole item. The update puts that in the place of the old one, unless the type of the
items comes down to objects though the form does not open it: then it merges, and a key that was taken
out of the item stays.
-/

namespace TypeScaffold

open Text

/-! ## What an update leaves -/

/-- The values of items: which entries a value has, and the object that entries make. -/
structure ItemValues (α : Type) where
  entries : α → Keyed α
  object : Keyed α → α
  distinct : ∀ value, (entries value).keys.Nodup
  entries_object : ∀ {pairs : Keyed α}, pairs.keys.Nodup → entries (object pairs) = pairs

namespace ItemValues

variable {α : Type} (values : ItemValues α)

/-- The object with the entries of one value and, over them, those of another. -/
def merged (current update : α) : α :=
  values.object ((values.entries current).putAll (values.entries update))

theorem get?_merged (current update : α) (key : String) :
    Keyed.get? key (values.entries (values.merged current update)) =
      (Keyed.get? key (values.entries update)).or (Keyed.get? key (values.entries current)) := by
  have distinct := Keyed.nodup_keys_putAll (values.distinct current) (values.entries update)
  rw [merged, values.entries_object distinct, Keyed.get?_putAll (values.distinct update)]

end ItemValues

/-- The lines by which an update merges what it is given into the item. -/
def mergingLines : List String :=
  ["  const current = next[index]", "  next[index] = typeof update === 'function'",
    "    ? update(current)", r"    : { ...current, ...update }"]

/-- The line by which an update puts what it is given in the place of the item. -/
def replacingLines : List String :=
  ["  next[index] = typeof update === 'function' ? update(next[index]) : update"]

namespace Method

/-- The lines between that which copies the array and that which returns it. -/
def assignment (method : Method) : List String :=
  method.tail.tail.dropLast.dropLast

/-- What an update that is given a value leaves in the place of an item. -/
def itemAfter? {α : Type} (values : ItemValues α) (method : Method) (current update : α) :
    Option α :=
  if method.assignment = mergingLines then some (values.merged current update)
  else if method.assignment = replacingLines then some update
  else none

/-- The item is what it was, with the entries that are given. -/
def Merges (method : Method) : Prop :=
  ∀ {α : Type} (values : ItemValues α) (current update : α),
    ∃ item, method.itemAfter? values current update = some item ∧
      ∀ key, Keyed.get? key (values.entries item) =
        (Keyed.get? key (values.entries update)).or (Keyed.get? key (values.entries current))

/-- The item is what is given. -/
def Replaces (method : Method) : Prop :=
  ∀ {α : Type} (values : ItemValues α) (current update : α),
    method.itemAfter? values current update = some update

theorem merges_of_assignment {method : Method} (lines : method.assignment = mergingLines) :
    method.Merges := by
  intro α values current update
  refine ⟨values.merged current update, ?_, values.get?_merged current update⟩
  rw [itemAfter?, if_pos lines]

theorem replaces_of_assignment {method : Method} (lines : method.assignment = replacingLines) :
    method.Replaces := by
  have different : ¬ replacingLines = mergingLines := by decide
  intro α values current update
  rw [itemAfter?, lines, if_neg different, if_pos rfl]

end Method

theorem ArrayAction.assignment_updateAt (field : ArrayField) :
    (updateAt.method field).assignment =
      if field.merges then mergingLines else replacingLines := by
  obtain ⟨name, item, merges, current⟩ := field
  cases merges <;> rfl

/-! ## Types that merge and are not opened -/

/-- The items of the type merge, though the form shows them as rows. -/
inductive TypeNode.MergesUnopened (context : Context) : TypeNode → Prop
  | intersection {members : List TypeNode} : MergesUnopened context (.intersection members)
  | record {key value : Option TypeNode} : MergesUnopened context (.record key value)
  | union {members : List TypeNode} (filled : members ≠ [])
      (all : ∀ member ∈ members, member.IsObjectLike context.arena) :
      MergesUnopened context (.union members)
  | undeclared {name : String} (missing : context.arena.get? name = none) :
      MergesUnopened context (.reference name)
  | recursive {name : String} {target : Declaration}
      (found : context.arena.get? name = some target) (circle : context.isRecursive name = true)
      (like : target.type.IsObjectLike context.arena) : MergesUnopened context (.reference name)
  | named {name : String} {target : Declaration}
      (found : context.arena.get? name = some target) (unopened : target.type.properties? = none)
      (like : target.type.IsObjectLike context.arena) : MergesUnopened context (.reference name)

theorem TypeNode.mergesUnopened_iff {context : Context} {node : TypeNode} :
    node.MergesUnopened context ↔
      node.merges context.arena = true ∧ context.openProperties? node = none := by
  rw [merges_iff]
  constructor
  · intro unopened
    cases unopened with
    | intersection => exact ⟨.intersection, rfl⟩
    | record => exact ⟨.record, rfl⟩
    | union filled all => exact ⟨.union filled all, rfl⟩
    | undeclared missing =>
        refine ⟨.undeclared missing, ?_⟩
        rw [Context.openProperties?, missing]
        exact ite_self _
    | recursive found circle like =>
        refine ⟨.declared found like, ?_⟩
        rw [Context.openProperties?, if_pos circle]
    | named found unopened like =>
        refine ⟨.declared found like, ?_⟩
        rw [Context.openProperties?, found, Option.bind_some, unopened]
        exact ite_self _
  · rintro ⟨like, unopened⟩
    cases like with
    | object => cases unopened
    | intersection => exact .intersection
    | record => exact .record
    | union filled all => exact .union filled all
    | undeclared missing => exact .undeclared missing
    | @declared name target found like =>
        cases circle : context.isRecursive name with
        | true => exact .recursive found circle like
        | false =>
            rw [Context.openProperties?, circle, if_neg Bool.false_ne_true, found,
              Option.bind_some] at unopened
            exact .named found unopened like

theorem TypeNode.merges_of_opened {context : Context} {node : TypeNode}
    (opened : (context.openProperties? node).isSome) : node.merges context.arena = true := by
  rw [merges_iff]
  cases node with
  | object properties name => exact .object
  | reference name =>
      rw [Context.openProperties?] at opened
      split at opened
      · cases opened
      · cases found : context.arena.get? name with
        | none => exact .undeclared found
        | some target =>
            rw [found, Option.bind_some] at opened
            cases root : target.type with
            | object properties typeName => exact .declared found (root ▸ .object)
            | _ =>
                rw [root] at opened
                cases opened
  | _ => cases opened

/-! ## What the widgets pass -/

/-- The widget passes an object with one part of the item to the action. -/
def Widget.PassesPart (action : String) (widget : Widget) : Prop :=
  ∀ value, ∃ name part,
    widget.binding.write value = action ++ r"(index, { " ++ name ++ ": " ++ part ++ r" })"

/-- The widget passes its value to the action as the whole item. -/
def Widget.PassesItem (action : String) (widget : Widget) : Prop :=
  ∀ value, widget.binding.write value = action ++ "(index, " ++ value ++ ")"

theorem Widget.EditsPart.passesPart {array : String} {widget : Widget}
    (edits : widget.EditsPart array) : widget.PassesPart (ArrayAction.updateAt.member array) := by
  intro value
  rcases edits with ⟨name, binding⟩ | ⟨object, name, binding⟩
  · exact ⟨name, value, by rw [binding, Binding.write]⟩
  · have opening : r": { ...item." = ": " ++ r"{ ...item." := rfl
    have closing : r" } })" = r" }" ++ r" })" := rfl
    refine ⟨object, r"{ ...item." ++ object ++ ", " ++ name ++ ": " ++ value ++ r" }", ?_⟩
    rw [binding, Binding.write, opening, closing]
    simp only [String.append_assoc]

/-- The widgets of the array and the update of the store fit together: what a card passes is merged,
and what a row passes is merged or replaces the item, as the type of the items has it. -/
structure ArrayBlock.IsUpdatedBy (context : Context) (element : Option TypeNode) (update : Method)
    (block : ArrayBlock) : Prop where
  cards : ∀ parts, block.items = .card parts →
    (∀ widget ∈ block.items.widgets, widget.PassesPart update.member) ∧ update.Merges
  rows : ∀ widget, block.items = .row widget →
    widget.PassesItem update.member ∧
      ((∃ node ∈ element, node.MergesUnopened context) → update.Merges) ∧
      ((∀ node ∈ element, ¬ node.MergesUnopened context) → update.Replaces)

theorem ArrayBlock.isUpdatedBy {context : Context} {field : ResolvedProperty}
    {element : Option TypeNode} {block : ArrayBlock}
    (view : block.items = .ofElement context field.name element) :
    block.IsUpdatedBy context element
      (ArrayAction.updateAt.method (.ofProperty context.arena field element)) := by
  let array := ArrayField.ofProperty context.arena field element
  have lines := ArrayAction.assignment_updateAt array
  have merging : array.merges = true → (ArrayAction.updateAt.method array).Merges := by
    intro merges
    rw [merges, if_pos rfl] at lines
    exact Method.merges_of_assignment lines
  have replacing : array.merges = false → (ArrayAction.updateAt.method array).Replaces := by
    intro merges
    rw [merges, if_neg Bool.false_ne_true] at lines
    exact Method.replaces_of_assignment lines
  rcases ItemView.edits_ofElement context field.name element with
    ⟨⟨row, shown, binding⟩, closed⟩ | ⟨⟨parts, shown, edits⟩, opened⟩
  · constructor
    case cards =>
      intro parts card
      rw [view, shown] at card
      cases card
    case rows =>
      intro widget isRow
      rw [view, shown] at isRow
      obtain rfl := ItemView.row.inj isRow
      refine ⟨?_, ?_, ?_⟩
      · intro value
        rw [binding]
        rfl
      · rintro ⟨node, rfl, unopened⟩
        exact merging (TypeNode.mergesUnopened_iff.mp unopened).1
      · intro settled
        apply replacing
        cases element with
        | none => rfl
        | some node =>
            have notBoth := settled node rfl
            rw [TypeNode.mergesUnopened_iff, not_and] at notBoth
            exact eq_false_of_ne_true (fun merges => notBoth merges closed)
  · constructor
    case cards =>
      intro _ _
      constructor
      · intro widget member
        rw [view, shown] at member
        exact (edits widget member).passesPart
      · cases element with
        | none => cases opened
        | some node => exact merging (TypeNode.merges_of_opened opened)
    case rows =>
      intro widget isRow
      rw [view, shown] at isRow
      cases isRow

theorem Store.updates_named {declaration : Declaration} (distinct : declaration.members.Nodup)
    (arena : Keyed Declaration) {field : FieldSource} (member : field ∈ declaration.fields)
    {element : Option TypeNode} (array : field.resolved.node = .array element) :
    (ofFields declaration.name arena declaration.fields).methods.filter
        (fun method => method.member == ArrayAction.updateAt.member field.resolved.name) =
      [ArrayAction.updateAt.method (.ofProperty arena field.resolved element)] := by
  have names := members_methods declaration.name arena declaration.fields
  have update : ArrayAction.updateAt.method (.ofProperty arena field.resolved element) ∈
      declaration.fields.flatMap (fun field => fieldMethods arena field.resolved) := by
    refine List.mem_flatMap_of_mem member ?_
    rw [fieldMethods, array]
    exact List.mem_cons_of_mem _ (List.mem_map_of_mem (by decide))
  exact Keyed.filter_key_eq_singleton (names ▸ Declaration.nodup_actionNames distinct)
    (List.mem_cons_of_mem _ (List.mem_cons_of_mem _ update))

/-! ## Forms and their stores -/

/-- What the widgets of an array pass to the update stands in the component. The store merges what the
widgets of cards pass. It replaces an item by what the widget of a row passes, except just where the
items are of a type that merges and is not opened. -/
theorem Form.items_updated {context : Context} {declaration : Declaration} {form : Form}
    (made : (build context declaration).result = some form) {field : FieldSource}
    (member : field ∈ declaration.fields) {element : Option TypeNode}
    (array : field.resolved.node = .array element) :
    ∃ store block update,
      (Store.build context declaration).result = some store ∧
      form.namedFields.filter (fun entry => entry.1 == field.resolved.name) =
        [(field.resolved.name, .array block)] ∧
      block.items = .ofElement context field.resolved.name element ∧
      store.methods.filter
          (fun method => method.member == ArrayAction.updateAt.member field.resolved.name) =
        [update] ∧
      block.IsUpdatedBy context element update ∧
      ∀ widget ∈ block.items.widgets, widget.control.IsEditable →
        IsOneLine (widget.binding.write widget.entered) →
        ∀ options, Contains (form.code options) (widget.binding.write widget.entered) := by
  obtain ⟨stored, distinct, _, rfl⟩ := result_build_eq_some_iff.mp made
  have store : (Store.build context declaration).result = some _ :=
    Store.result_build_eq_some_iff.mpr ⟨stored, distinct, rfl⟩
  obtain ⟨block, part, view⟩ := FormField.exists_block context array
  have parts := parts_named distinct member context
  rw [part] at parts
  have updates := Store.updates_named distinct context.arena member array
  have inForm : FormField.array block ∈ (ofFields context declaration.name
      (declaration.fields.map FieldSource.resolved)).fields := by
    rw [← part]
    exact List.mem_map_of_mem (List.mem_map_of_mem member)
  refine ⟨_, block, _, store, parts, view, updates, ArrayBlock.isUpdatedBy view, ?_⟩
  intro widget inBlock editable oneLine options
  have inWidget := widget.contains_write editable oneLine
  exact contains_code oneLine inForm (ArrayBlock.contains_markup oneLine inBlock inWidget) options

def recipeDeclaration : Declaration where
  name := "Recipe"
  type := .object [⟨"steps", .array (some (.primitive "string")), false⟩,
    ⟨"ingredients", .array (some (.object [⟨"label", .primitive "string", false⟩,
      ⟨"grams", .primitive "number", true⟩] none)), true⟩] none
  dependencies := []
  exported := true

theorem recipe_items_updated :
    ∃ (form : Form) (steps ingredients : ArrayBlock) (stepUpdate ingredientUpdate : Method),
      (Form.build ⟨[], [], []⟩ recipeDeclaration).result = some form ∧
      form.namedFields.filter (fun entry => entry.1 == "steps") = [("steps", .array steps)] ∧
      form.namedFields.filter (fun entry => entry.1 == "ingredients") =
        [("ingredients", .array ingredients)] ∧
      (∃ widget, steps.items = .row widget ∧ widget.PassesItem stepUpdate.member) ∧
      stepUpdate.Replaces ∧
      (∃ parts, ingredients.items = .card parts) ∧
      (∀ widget ∈ ingredients.items.widgets, widget.PassesPart ingredientUpdate.member) ∧
      ingredientUpdate.Merges ∧
      Contains (form.code FormOptions.standard) "updateStepsAt(index, e.target.value)" := by
  have distinct : recipeDeclaration.members.Nodup := by decide +kernel
  have apart : ∀ name ∈ recipeDeclaration.selectors, name ∉ formLocals := by decide +kernel
  have made : (Form.build ⟨[], [], []⟩ recipeDeclaration).result = some _ :=
    Form.result_build_eq_some_iff.mpr ⟨rfl, distinct, apart, rfl⟩
  obtain ⟨_, steps, stepUpdate, _, stepsPart, stepsView, _, stepsUpdated, calls⟩ :=
    Form.items_updated made List.mem_cons_self rfl
  obtain ⟨_, ingredients, ingredientUpdate, _, ingredientsPart, ingredientsView, _,
    ingredientsUpdated, _⟩ :=
    Form.items_updated made (List.mem_cons_of_mem _ List.mem_cons_self) rfl
  let row : Widget := ⟨none, .item "steps", none, .text⟩
  have stepsRow : steps.items = .row row := stepsView
  have unmerged : ∀ node ∈ some (TypeNode.primitive "string"),
      ¬ node.MergesUnopened ⟨[], [], []⟩ := by
    rintro node ⟨⟩ unopened
    cases unopened
  obtain ⟨passesItem, _, replaces⟩ := stepsUpdated.rows row stepsRow
  obtain ⟨passesParts, merges⟩ := ingredientsUpdated.cards _ ingredientsView
  have inSteps : row ∈ steps.items.widgets := by
    rw [stepsRow]
    exact List.mem_cons_self
  have editable : row.control.IsEditable := by
    intro value
    exact Control.noConfusion
  have call : row.binding.write row.entered = "updateStepsAt(index, e.target.value)" := by
    decide +kernel
  have oneLine : IsOneLine (row.binding.write row.entered) := by
    rw [call]
    decide +kernel
  have called := calls row inSteps editable oneLine FormOptions.standard
  rw [call] at called
  exact ⟨_, steps, ingredients, stepUpdate, ingredientUpdate, made, stepsPart, ingredientsPart,
    ⟨row, stepsRow, passesItem⟩, replaces unmerged, ⟨_, ingredientsView⟩, passesParts, merges,
    called⟩

/-- JSON values, of which objects have entries. -/
def Json.itemValues : ItemValues Json where
  entries
    | .object members => Keyed.ofList members
    | _ => []
  object := .object
  distinct := by
    intro value
    cases value with
    | object members => exact Keyed.nodup_keys_ofList members
    | _ => exact List.nodup_nil
  entries_object := Keyed.ofList_of_nodup

def settingsType : TypeNode :=
  .record (some (.primitive "string")) (some (.primitive "string"))

def profileDeclaration : Declaration where
  name := "Profile"
  type := .object [⟨"settings", .array (some settingsType), false⟩] none
  dependencies := []
  exported := true

/-- The row for the settings of a profile passes whole settings, but one that was taken out stays. -/
theorem profile_row_keeps_removed_setting :
    ∃ (form : Form) (store : Store) (block : ArrayBlock) (update : Method),
      (Form.build ⟨[], [], []⟩ profileDeclaration).result = some form ∧
      (Store.build ⟨[], [], []⟩ profileDeclaration).result = some store ∧
      form.namedFields.filter (fun entry => entry.1 == "settings") = [("settings", .array block)] ∧
      store.methods.filter (fun method => method.member == "updateSettingsAt") = [update] ∧
      (∃ widget, block.items = .row widget ∧ widget.PassesItem "updateSettingsAt") ∧
      update.itemAfter? Json.itemValues
          (.object [("theme", .text "dark"), ("language", .text "en")])
          (.object [("theme", .text "light")]) =
        some (.object [("theme", .text "light"), ("language", .text "en")]) ∧
      ¬ update.Replaces := by
  have distinct : profileDeclaration.members.Nodup := by decide +kernel
  have apart : ∀ name ∈ profileDeclaration.selectors, name ∉ formLocals := by decide +kernel
  have made : (Form.build ⟨[], [], []⟩ profileDeclaration).result = some _ :=
    Form.result_build_eq_some_iff.mpr ⟨rfl, distinct, apart, rfl⟩
  have store : (Store.build ⟨[], [], []⟩ profileDeclaration).result = some _ :=
    Store.result_build_eq_some_iff.mpr ⟨rfl, distinct, rfl⟩
  have parts := Form.parts_named distinct List.mem_cons_self ⟨[], [], []⟩
  have updates := Store.updates_named distinct [] List.mem_cons_self rfl
  let row : Widget := ⟨none, .item "settings", none, .json⟩
  have passesItem : row.PassesItem "updateSettingsAt" := by
    have name : ArrayAction.updateAt.member "settings" = "updateSettingsAt" := by decide +kernel
    intro value
    rw [← name]
    rfl
  let settings : Json := .object [("theme", .text "dark"), ("language", .text "en")]
  let edited : Json := .object [("theme", .text "light")]
  let kept : Json := .object [("theme", .text "light"), ("language", .text "en")]
  have merged : (ArrayAction.updateAt.method (.ofProperty []
      ⟨"settings", .array (some settingsType), false, false⟩ (some settingsType))).itemAfter?
        Json.itemValues settings edited = some kept :=
    rfl
  have different : kept ≠ edited := by
    intro same
    have members := Json.object.inj same
    cases (List.cons.inj members).2
  refine ⟨_, _, _, _, made, store, parts, updates, ⟨row, rfl, passesItem⟩, merged, ?_⟩
  intro replaces
  have replaced := replaces Json.itemValues settings edited
  exact different (Option.some.inj (merged.symm.trans replaced))

end TypeScaffold
