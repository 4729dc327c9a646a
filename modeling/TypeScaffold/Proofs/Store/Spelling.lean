import TypeScaffold.Proofs.Model.Spelling
import TypeScaffold.Proofs.Store.Alike
import TypeScaffold.Proofs.Store.Fields

/-!
# Stores do not depend on how properties are written

The types, the initial values and the actions of a store read the properties of declared objects by
their resolution only, so a store is the same if all properties of all declared objects are written
anew so that each is read as before.
-/

namespace TypeScaffold

/-! ## Items that merge -/

theorem TypeNode.mergesWith_respell (change : Property → Property) (reference : String → Bool)
    (node : TypeNode) : (node.respell change).mergesWith reference = node.mergesWith reference := by
  cases node <;> rfl

section Alike

variable {change : Property → Property} (keeps : ∀ property, (change property).ReadsAs property)

include keeps

/-! ## Initial values -/

namespace Initial

theorem ofProperties_respell (reference : String → Initial) (properties : List Property) :
    ofProperties reference (properties.map change) = ofProperties reference properties := by
  induction properties with
  | nil => rfl
  | cons property rest inductionHypothesis =>
      have alike := keeps property
      rw [List.map_cons, ofProperties, ofProperties, inductionHypothesis, alike.name]
      change (_, if (change property).isOptional then _ else _) :: _ =
        (_, if property.isOptional then _ else _) :: _
      rw [alike.optional]
      cases optional : property.isOptional with
      | true => rfl
      | false => rw [alike.type_eq optional]

theorem ofNode_respell (reference : String → Initial) (node : TypeNode) :
    ofNode reference (node.respell change) = ofNode reference node := by
  cases node with
  | object properties name =>
      rw [TypeNode.respell, ofNode, ofNode, ofProperties_respell keeps]
  | _ => rfl

/-- An optional field is absent, and the type of a required one is written as it is read. -/
theorem ofField_respell_property (arena : Keyed Declaration) (property : Property) :
    ofField arena property.isOptional (some (change property).type) =
      ofField arena property.isOptional (some property.type) := by
  rw [ofField, ofField]
  cases optional : property.isOptional with
  | true => rfl
  | false => rw [(keeps property).type_eq optional]

end Initial

/-- Declared objects serve stores as before. -/
theorem storesAlike_respell (arena : Keyed Declaration) :
    StoresAlike (respellArena change arena) arena := by
  apply StoresAlike.of_mapEntries
  intro declaration
  refine ⟨?_, declaration.isObjectRoot_respell change, ?_⟩
  · rw [Declaration.start, Declaration.hasStore_respell]
    exact Prod.ext rfl (funext (fun reference =>
      Initial.ofNode_respell keeps reference declaration.type))
  · intro reference
    exact declaration.type.mergesWith_respell change reference

/-! ## Stores -/

/-- The field of a store with its property written anew. -/
def FieldSource.respell (change : Property → Property) (field : FieldSource) : FieldSource :=
  { field with property := change field.property }

theorem fieldSources_respell (properties : List Property) :
    fieldSources (properties.map change) =
      (fieldSources properties).map (FieldSource.respell change) := by
  have source : ∀ property : Property,
      (⟨change property, (change property).resolve⟩ : FieldSource) =
        FieldSource.respell change ⟨property, property.resolve⟩ := by
    intro property
    rw [(keeps property).resolve_eq]
    rfl
  have sources : (properties.map change).map (fun property => ⟨property, property.resolve⟩) =
      (properties.map (fun property => ⟨property, property.resolve⟩)).map
        (FieldSource.respell change) := by
    rw [List.map_map, List.map_map]
    exact List.map_congr_left (fun property _ => source property)
  rw [fieldSources, sources, List.filter_map]
  rfl

theorem resolved_fieldSources_respell (properties : List Property) :
    (fieldSources (properties.map change)).map FieldSource.resolved =
      (fieldSources properties).map FieldSource.resolved := by
  rw [fieldSources_respell keeps, List.map_map]
  rfl

theorem functionReports_respell (owner : String) (properties : List Property) :
    functionReports owner (properties.map change) = functionReports owner properties := by
  have function : ∀ property : Property,
      (change property).resolve.node.isFunction = property.resolve.node.isFunction := by
    intro property
    rw [(keeps property).resolve_eq]
  have names : functionNames (properties.map change) = functionNames properties := by
    rw [functionNames, functionNames, List.filter_map, List.map_map]
    simp only [Function.comp_def, function, (keeps _).name]
  rw [functionReports, functionReports, names]

theorem Slot.ofProperty_respell (arena : Keyed Declaration) (property : Property) :
    ofProperty arena (change property) = ofProperty arena property := by
  rw [ofProperty, ofProperty, (keeps property).name, (keeps property).optional,
    (keeps property).type]

namespace Store

theorem ofFields_respell (name : String) (arena : Keyed Declaration) (properties : List Property) :
    ofFields name (respellArena change arena) (fieldSources (properties.map change)) =
      ofFields name arena (fieldSources properties) := by
  rw [(storesAlike_respell keeps arena).ofFields_eq, fieldSources_respell keeps]
  simp only [ofFields, List.map_map, List.flatMap_map, Function.comp_def, FieldSource.respell,
    Slot.ofProperty_respell keeps, (keeps _).name]
  congr 1
  apply List.map_congr_left
  intro field member
  obtain ⟨property, _, _, rfl⟩ := mem_fieldSources.mp member
  exact congrArg (Prod.mk property.name) (Initial.ofField_respell_property keeps arena property)

/-- A declaration has the same store, and the same is reported about it. -/
theorem build_respell (context : Context) (declaration : Declaration) :
    build (context.respell change) (declaration.respell change) = build context declaration := by
  obtain ⟨name, type, dependencies, exported⟩ := declaration
  cases type with
  | object properties typeName =>
      simp only [build, Declaration.respell, TypeNode.respell, Context.respell,
        resolved_fieldSources_respell keeps, functionReports_respell keeps,
        ofFields_respell keeps]
  | _ => rfl

end Store

end Alike

end TypeScaffold
