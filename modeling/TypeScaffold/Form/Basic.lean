import TypeScaffold.Form.Widget
import TypeScaffold.Store.Basic

/-!
# Forms

The form of a declaration has one part for each field of its store, in order. An array field is
shown as rows of one widget, or, if its items are objects, as cards with a part for each property.
Objects inside a card are opened once more; what lies deeper is edited as raw JSON.
-/

namespace TypeScaffold

/-- What becomes of a property of an object inside a card. -/
inductive NestedPart where
  /-- A function has no widget. -/
  | function (name : String)
  | widget (widget : Widget)
  deriving DecidableEq, Repr

/-- What becomes of a property of an item that is shown as a card. -/
inductive CardPart where
  /-- A function has no widget. -/
  | function (name : String)
  | widget (widget : Widget)
  /-- An object is opened inside the card. -/
  | object (name label : String) (parts : List NestedPart)
  deriving DecidableEq, Repr

/-- How the items of an array field are shown. -/
inductive ItemView where
  | row (widget : Widget)
  | card (parts : List CardPart)
  deriving DecidableEq, Repr

/-- An array field: the expression for the array at hand, the item that is added, and how items are
shown. -/
structure ArrayBlock where
  name : String
  label : String
  required : Bool
  current : String
  newItem : Initial
  items : ItemView

/-- What becomes of a field. -/
inductive FormField where
  | widget (widget : Widget)
  | array (block : ArrayBlock)

/-- The form of a declaration: the names that it takes from the store, its fields, and whether its
schema is lazy. -/
structure Form where
  name : String
  lazySchema : Bool
  selectors : List String
  fieldNames : List String
  fields : List FormField

/-! ## Properties of items -/

/-- The properties of a type that is opened: an object, or a declared object that does not depend on
itself. -/
def Context.openProperties? (context : Context) : TypeNode → Option (List Property)
  | .object properties _ => some properties
  | .reference name =>
      if context.isRecursive name then none
      else (context.arena.get? name).bind (fun target => target.type.properties?)
  | _ => none

/-- The part for a property of an object inside a card. -/
def NestedPart.ofProperty (array object : String) (property : Property) : NestedPart :=
  let field := property.resolve
  if field.node.isFunction then
    .function field.name
  else
    .widget (.ofNode (some (Text.title field.name)) (.nestedProperty array object field.name) none
      (some field.node))

def CardPart.ofProperty (context : Context) (array : String) (property : Property) : CardPart :=
  let field := property.resolve
  if field.node.isFunction then
    .function field.name
  else
    let label := Text.title field.name
    match Control.ofNode? field.node, context.openProperties? field.node with
    | none, some properties =>
        .object field.name label (properties.map (NestedPart.ofProperty array field.name))
    | _, _ =>
        .widget (.ofNode (some label) (.itemProperty array field.name) none (some field.node))

/-- How items of a type are shown. -/
def ItemView.ofElement (context : Context) (array : String) (element : Option TypeNode) :
    ItemView :=
  match element.bind context.openProperties? with
  | some properties => .card (properties.map (CardPart.ofProperty context array))
  | none => .row (.ofNode none (.item array) none element)

/-- The part for a field. -/
def FormField.ofProperty (context : Context) (field : ResolvedProperty) : FormField :=
  let label := Text.title field.name
  match field.node with
  | .array element =>
      .array
        { name := field.name
          label := label
          required := !field.optional
          current :=
            if field.optional || field.nullable then "(" ++ field.name ++ " ?? [])" else field.name
          newItem := Initial.ofField context.arena false element
          items := ItemView.ofElement context field.name element }
  | node => .widget (.ofNode (some label) (.field field.name) (some (!field.optional)) (some node))

/-! ## Reports -/

/-- The report about a part of an object inside a card. -/
def NestedPart.diagnostics (owner array object : String) : NestedPart → List Diagnostic
  | .function name => [.functionField (.nestedProperty array object name)]
  | .widget input => input.diagnostics owner

/-- The reports about a part of a card. -/
def CardPart.diagnostics (owner array : String) : CardPart → List Diagnostic
  | .function name => [.functionField (.itemProperty array name)]
  | .widget input => input.diagnostics owner
  | .object name _ parts => parts.flatMap (NestedPart.diagnostics owner array name)

/-- The reports about the items of an array field. -/
def ItemView.diagnostics (owner array : String) : ItemView → List Diagnostic
  | .row widget => widget.diagnostics owner
  | .card parts => parts.flatMap (CardPart.diagnostics owner array)

/-- The reports about a field. -/
def FormField.diagnostics (owner : String) : FormField → List Diagnostic
  | .widget input => input.diagnostics owner
  | .array block => block.items.diagnostics owner block.name

/-! ## The form of a declaration -/

/-- The names that every form component declares or imports itself. -/
def formLocals : List String :=
  ["React", "z", "useState", "useCallback", "onSubmit", "onCancel", "submitLabel", "cancelLabel",
    "errors", "setErrors", "touched", "setTouched", "isSubmitting", "setIsSubmitting",
    "submitError", "setSubmitError", "formData", "validateField", "handleBlur", "validateForm",
    "handleSubmit", "handleReset", "isDirty", "hasErrors"]

/-- The actions on an array field that a form uses. -/
def arraySelectors (field : ResolvedProperty) : List String :=
  [.append, .removeAt, .updateAt].map (ArrayAction.member field.name)

namespace Form

/-- The names that a form takes from the store: the fields, the setters of fields that are no
arrays, the actions on arrays, and the reset. -/
def selectorsFor (name : String) (fields : List ResolvedProperty) : List String :=
  fields.map ResolvedProperty.name ++
    (fields.filter (fun field => !field.node.isArray)).map (fun field => setMember field.name) ++
    (fields.filter (fun field => field.node.isArray)).flatMap arraySelectors ++
    [Naming.reset name]

def ofFields (context : Context) (name : String) (fields : List ResolvedProperty) : Form where
  name := name
  lazySchema := context.isRecursive name
  selectors := selectorsFor name fields
  fieldNames := fields.map ResolvedProperty.name
  fields := fields.map (FormField.ofProperty context)

/-- The reports about the fields of a form. -/
def diagnostics (form : Form) : List Diagnostic :=
  form.fields.flatMap (FormField.diagnostics form.name)

/-- The form of a declaration. Only exported objects have one, and only if the names of their store
differ from one another and from the names that the component uses itself. -/
def build (context : Context) (declaration : Declaration) : Outcome Form :=
  let name := declaration.name
  if !declaration.exported then
    .skip [] (.notExported name)
  else
    match declaration.type with
    | .object properties _ =>
        let reports := functionReports name properties
        let fields := (fieldSources properties).map FieldSource.resolved
        match NameSet.repeated (storeMembers name fields) with
        | [] =>
            match (selectorsFor name fields).filter formLocals.contains with
            | [] =>
                let form := ofFields context name fields
                ⟨some form, reports ++ form.diagnostics⟩
            | shadowed => .skip reports (.shadowedLocals name shadowed)
        | repeated => .skip reports (.repeatedMembers name repeated)
    | _ => .skip [] (.notObject name)

end Form

end TypeScaffold
