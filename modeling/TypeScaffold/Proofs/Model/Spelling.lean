import TypeScaffold.Context
import TypeScaffold.Model.Choice
import TypeScaffold.Proofs.Model.Arena
import TypeScaffold.Proofs.Model.Resolve

/-!
# Spellings of properties

A property is read by its name, by whether it is optional, and by its type without `undefined`. The
properties of the declared objects may be written anew: this changes the declarations where they
stand, and neither their dependencies nor their order.
-/

namespace TypeScaffold

namespace PropertyOf

/-- Both properties have one name, are optional or required alike, and have one type without
`undefined`. -/
structure ReadsAs (property other : Property) : Prop where
  name : property.name = other.name
  optional : property.isOptional = other.isOptional
  type : property.type.withoutUndefined = other.type.withoutUndefined

theorem ReadsAs.refl (property : Property) : property.ReadsAs property :=
  ⟨rfl, rfl, rfl⟩

theorem ReadsAs.resolve_eq {property other : Property} (alike : property.ReadsAs other) :
    property.resolve = other.resolve := by
  rw [resolve, resolve, alike.name, alike.optional, alike.type]

/-- The type of a required property is written as it is read. -/
theorem withoutUndefined_of_required {property : Property} (required : property.isOptional = false) :
    property.type.withoutUndefined = property.type := by
  apply TypeNode.withoutUndefined_of_eq_none
  rw [isOptional, Bool.or_eq_false_iff, Option.isSome_eq_false_iff, Option.isNone_iff_eq_none]
    at required
  exact required.2

theorem ReadsAs.type_eq {property other : Property} (alike : property.ReadsAs other)
    (required : other.isOptional = false) : property.type = other.type := by
  rw [← withoutUndefined_of_required required, ← alike.type,
    withoutUndefined_of_required (alike.optional.trans required)]

end PropertyOf

/-! ## Writing properties anew -/

section Respell

variable (change : Property → Property)

/-- The type with the properties written anew, if it is an object. -/
def TypeNode.respell : TypeNode → TypeNode
  | .object properties name => .object (properties.map change) name
  | node => node

/-- The declaration with the properties of its object written anew. -/
def Declaration.respell (declaration : Declaration) : Declaration :=
  { declaration with type := declaration.type.respell change }

/-- The declarations by name with the properties of their objects written anew. -/
def respellArena (arena : Keyed Declaration) : Keyed Declaration :=
  Keyed.mapEntries (fun _ => Declaration.respell change) arena

/-- The context in which the properties of all declared objects are written anew. -/
def Context.respell (context : Context) : Context :=
  { context with arena := respellArena change context.arena }

/-- The model with the properties of all declared objects written anew. -/
def Model.respell (model : Model) : Model :=
  { model with declarations := model.declarations.map (Declaration.respell change) }

@[simp]
theorem TypeNode.isObject_respell (node : TypeNode) :
    (node.respell change).isObject = node.isObject := by
  cases node <;> rfl

@[simp]
theorem TypeNode.isFunction_respell (node : TypeNode) :
    (node.respell change).isFunction = node.isFunction := by
  cases node <;> rfl

@[simp]
theorem TypeNode.properties?_respell (node : TypeNode) :
    (node.respell change).properties? = node.properties?.map (List.map change) := by
  cases node <;> rfl

@[simp]
theorem Declaration.isObjectRoot_respell (declaration : Declaration) :
    (declaration.respell change).isObjectRoot = declaration.isObjectRoot :=
  declaration.type.isObject_respell change

@[simp]
theorem Declaration.hasStore_respell (declaration : Declaration) :
    (declaration.respell change).hasStore = declaration.hasStore := by
  rw [hasStore, isObjectRoot_respell]
  rfl

@[simp]
theorem get?_respellArena (arena : Keyed Declaration) (name : String) :
    (respellArena change arena).get? name = (arena.get? name).map (Declaration.respell change) :=
  Keyed.get?_mapEntries (fun _ => Declaration.respell change) name arena

namespace Model

theorem arena_respell (model : Model) :
    (model.respell change).arena = respellArena change model.arena :=
  arena_mapDeclarations (Declaration.respell change) (fun _ => rfl) model

theorem graph_respell (model : Model) : (model.respell change).graph = model.graph := by
  rw [graph, graph, respell, List.map_map]
  rfl

theorem neededNames_respell (model : Model) :
    (model.respell change).neededNames = model.neededNames := by
  have exported : (model.respell change).declarations.filter Declaration.exported =
      (model.declarations.filter Declaration.exported).map (Declaration.respell change) := by
    rw [respell, List.filter_map]
    rfl
  rw [neededNames, neededNames, graph_respell, exported, List.flatMap_map]
  rfl

theorem context_respell (model : Model) :
    Context.ofModel (model.respell change) = (Context.ofModel model).respell change := by
  rw [Context.ofModel, graph_respell, neededNames_respell, arena_respell]
  rfl

end Model

end Respell

/-! ## Optional properties by their mark -/

/-- An optional property with the mark and without `undefined`; one whose type is optional even then
stays as it is. -/
def PropertyOf.marked (property : Property) : Property :=
  match property.type.unwrapOptional? with
  | none => property
  | some core => if core.unwrapOptional?.isSome then property else ⟨property.name, core, true⟩

theorem PropertyOf.marked_readsAs (property : Property) : property.marked.ReadsAs property := by
  rw [marked]
  split
  · exact ReadsAs.refl property
  · rename_i core unwrapped
    split
    · exact ReadsAs.refl property
    · rename_i single
      have present : core.unwrapOptional? = none := by simpa using single
      refine ⟨rfl, ?_, ?_⟩
      · rw [isOptional, isOptional, unwrapped, Option.isSome_some, Bool.or_true, Bool.true_or]
      · rw [TypeNode.withoutUndefined_of_eq_some unwrapped,
          TypeNode.withoutUndefined_of_eq_none present]

/-- The ways to write an optional property of a type: by the mark, by a union with `undefined`, and by
both. -/
def optionalSpellings (name : String) (type : TypeNode) : List Property :=
  let undefined := TypeNode.primitive "undefined"
  [⟨name, type, true⟩, ⟨name, .union [type, undefined], false⟩,
    ⟨name, .union [undefined, type], false⟩, ⟨name, .union [type, undefined], true⟩,
    ⟨name, .union [undefined, type], true⟩]

theorem marked_of_mem_optionalSpellings {name : String} {type : TypeNode} {property : Property}
    (present : type.isUndefined = false) (required : type.unwrapOptional? = none)
    (member : property ∈ optionalSpellings name type) : property.marked = ⟨name, type, true⟩ := by
  have undefined : (TypeNode.primitive "undefined").isUndefined = true := rfl
  have last : (TypeNode.union [type, .primitive "undefined"]).unwrapOptional? = some type := by
    simp [TypeNode.unwrapOptional?, TypeNode.optionalCore?, companion?, present, undefined]
  have first : (TypeNode.union [.primitive "undefined", type]).unwrapOptional? = some type := by
    simp [TypeNode.unwrapOptional?, TypeNode.optionalCore?, companion?, present, undefined]
  simp only [optionalSpellings, List.mem_cons, List.not_mem_nil, or_false] at member
  rcases member with rfl | rfl | rfl | rfl | rfl <;>
    simp [PropertyOf.marked, first, last, required]

end TypeScaffold
