import TypeScaffold.Proofs.Form.Build
import TypeScaffold.Proofs.Form.Required
import TypeScaffold.Proofs.Validator.Schema
import TypeScaffold.Proofs.Validator.Surroundings
import TypeScaffold.Store.Render

/-!
# Optional fields in all artifacts

The schema decides by the form of the validator whether a field is optional, the store and the form
by the resolved property. The two agree on every field whose type is no intersection of a single
type: the validator of such an intersection is that of the one type, which may be optional though the
intersection is not.
-/

namespace TypeScaffold

theorem Store.slotLine_ofProperty (arena : Keyed Declaration) (property : Property) :
    slotLine (Slot.ofProperty arena property) =
      "  " ++ property.name ++ (if property.isOptional then "?: " else ": ") ++
        (TypeExpr.ofNode arena property.type.withoutUndefined).code := by
  rw [slotLine, Slot.ofProperty]
  cases property.isOptional with
  | true =>
      have mark : "?" ++ ": " = "?: " := rfl
      simp only [if_true, String.append_assoc, ← mark]
  | false => simp only [Bool.false_eq_true, if_false, String.append_empty]

/-- The parts of a form with the names of their fields. -/
def Form.namedFields (form : Form) : List (String × FormField) :=
  form.fieldNames.zip form.fields

theorem Form.namedFields_ofFields (context : Context) (name : String)
    (fields : List ResolvedProperty) :
    (ofFields context name fields).namedFields =
      fields.map (fun field => (field.name, FormField.ofProperty context field)) := by
  rw [namedFields, ofFields, List.zip_map']

theorem Form.parts_named {declaration : Declaration} (distinct : declaration.members.Nodup)
    {field : FieldSource} (member : field ∈ declaration.fields) (context : Context) :
    (ofFields context declaration.name
        (declaration.fields.map FieldSource.resolved)).namedFields.filter
          (fun entry => entry.1 == field.resolved.name) =
      [(field.resolved.name, FormField.ofProperty context field.resolved)] := by
  let named (field : ResolvedProperty) := (field.name, FormField.ofProperty context field)
  have entry : named field.resolved ∈ (declaration.fields.map FieldSource.resolved).map named :=
    List.mem_map_of_mem (List.mem_map_of_mem member)
  have names : (((declaration.fields.map FieldSource.resolved).map named).map Prod.fst).Nodup := by
    rw [List.map_map]
    exact (List.nodup_append.mp distinct).1
  rw [namedFields_ofFields]
  exact Keyed.filter_key_eq_singleton names entry

/-- The line of the property in the schema and its only parts in the store and in the form treat it as
optional, or all as required. -/
structure Property.IsTreatedAlike (property : Property) (line : String) (store : Store)
    (form : Form) : Prop where
  line : line.endsWith ".optional()," = true ↔ property.resolve.optional = true
  slot : ∃ slot,
    store.slots.filter (fun slot => slot.name == property.name) = [slot] ∧
      Store.slotLine slot = "  " ++ property.name ++
        (if property.resolve.optional then "?: " else ": ") ++ slot.type.code
  setter : ∃ value,
    store.signatures.filter (fun signature => signature.member == setMember property.name) =
        [⟨setMember property.name, "(value: " ++ value ++ ") => void"⟩] ∧
      (value.endsWith " | undefined" = true ↔ property.resolve.optional = true)
  initial : ∃ value,
    store.defaults.filter (fun entry => entry.1 == property.name) = [(property.name, value)] ∧
      (property.resolve.optional = true → value.code = "undefined")
  part : ∃ part,
    form.namedFields.filter (fun entry => entry.1 == property.name) = [(property.name, part)] ∧
      part.ShowsRequired (!property.resolve.optional)

/-- Where there is a form, the schema of the object, the store and the form agree on which fields are
optional. No field of any object is written as optional twice. -/
theorem Form.optionality_agrees {context : Context} {declaration : Declaration} {form : Form}
    (made : (build context declaration).result = some form) :
    ∃ properties typeName schema validators store,
      declaration.type = .object properties typeName ∧
      (Schema.build context declaration).result = some schema ∧
      schema.body = .object validators ∧
      validators = properties.map
        (fun property => (property.name, Validator.ofProperty property)) ∧
      (Store.build context declaration).result = some store ∧
      (∀ (place : Nat) (property : Property), properties[place]? = some property →
        property.resolve.node.isFunction = false →
        (∀ member, property.type ≠ .intersection [member]) →
        ∃ line, (Validator.fieldCodes validators)[place]? = some line ∧
          property.IsTreatedAlike line store form) ∧
      ∀ property : Property, ¬ (Validator.ofProperty property).code.endsWith
        ".optional().optional()" = true := by
  obtain ⟨stored, distinct, _, rfl⟩ := result_build_eq_some_iff.mp made
  obtain ⟨exported, properties, typeName, root⟩ := Declaration.hasStore_iff.mp stored
  have schema := Schema.result_build_of_object context exported root
  have store : (Store.build context declaration).result = some _ :=
    Store.result_build_eq_some_iff.mpr ⟨stored, distinct, rfl⟩
  refine ⟨properties, typeName, _, _, _, root, schema, rfl, rfl, store, ?_, ?_⟩
  · intro place property found valued several
    let field : FieldSource := ⟨property, property.resolve⟩
    have member : field ∈ declaration.fields := by
      rw [Declaration.fields, root]
      exact mem_fieldSources.mpr ⟨property, List.mem_of_getElem? found, valued, rfl⟩
    have slots := Store.slots_named distinct context.arena member
    have setters := Store.setters_named distinct context.arena member
    have defaults := Store.defaults_named distinct context.arena member
    have parts := parts_named distinct member context
    refine ⟨Validator.fieldCode property.name (Validator.ofProperty property).code, ?_, ?_⟩
    · rw [Validator.fieldCodes_eq_map, List.getElem?_map, List.getElem?_map, found]
      rfl
    · constructor
      case line =>
        rw [Validator.endsWith_fieldCode_iff, Validator.isOptional_ofProperty several]
        rfl
      case slot => exact ⟨_, slots, Store.slotLine_ofProperty context.arena property⟩
      case setter =>
        exact ⟨_, setters, Store.endsWith_setterValue_iff declaration.name property.resolve⟩
      case initial =>
        refine ⟨_, defaults, ?_⟩
        intro optional
        rw [Initial.ofField, if_pos optional]
        rfl
      case part =>
        exact ⟨_, parts, FormField.showsRequired_ofProperty context property.resolve⟩
  · intro property
    have twice : ".optional().optional()" =
        Validator.optionalSuffix ++ Validator.optionalSuffix :=
      rfl
    rw [twice]
    exact Validator.not_endsWith_twice (Validator.isTwiceOptional_ofProperty property)

/-- A phone number that may be missing, which only its type tells. -/
def phoneProperty : Property :=
  ⟨"phone", .union [.primitive "undefined", .primitive "string"], false⟩

/-- A contact with a name and perhaps a phone number. -/
def contactDeclaration : Declaration where
  name := "Contact"
  type := .object [⟨"name", .primitive "string", false⟩, phoneProperty] none
  dependencies := []
  exported := true

theorem contact_phone_optional_alike :
    ∃ form, (Form.build ⟨[], [], []⟩ contactDeclaration).result = some form ∧
      phoneProperty.resolve.node.isFunction = false ∧
      (∀ member, phoneProperty.type ≠ .intersection [member]) ∧
      ∃ line store, phoneProperty.IsTreatedAlike line store form ∧
        line.endsWith ".optional()," = true := by
  have distinct : contactDeclaration.members.Nodup := by decide +kernel
  have apart : ∀ name ∈ contactDeclaration.selectors, name ∉ formLocals := by decide +kernel
  have made : (Form.build ⟨[], [], []⟩ contactDeclaration).result = some _ :=
    Form.result_build_eq_some_iff.mpr ⟨rfl, distinct, apart, rfl⟩
  have several : ∀ member, phoneProperty.type ≠ .intersection [member] := by
    intro member same
    cases same
  obtain ⟨properties, _, _, _, store, root, _, _, _, _, alike, _⟩ := Form.optionality_agrees made
  cases root
  obtain ⟨line, _, treated⟩ := alike 1 phoneProperty rfl rfl several
  exact ⟨_, made, rfl, several, line, store, treated, treated.line.mpr rfl⟩

end TypeScaffold
