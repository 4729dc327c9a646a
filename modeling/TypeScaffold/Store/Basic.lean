import TypeScaffold.Context
import TypeScaffold.Store.Action
import TypeScaffold.Text.Lines

/-!
# Stores

The store of a declaration: the state with a part for each property that is no function, the
actions, the initial state, and the implementation. All names of a store share one scope, so a
declaration whose store would define a name twice gets none.
-/

namespace TypeScaffold

/-- A property with its resolution. -/
structure FieldSource where
  property : Property
  resolved : ResolvedProperty

/-- The properties that are no functions, resolved. -/
def fieldSources (properties : List Property) : List FieldSource :=
  (properties.map (fun property => ⟨property, property.resolve⟩)).filter
    (fun field => !field.resolved.node.isFunction)

def functionNames (properties : List Property) : List String :=
  (properties.filter (fun property => property.resolve.node.isFunction)).map PropertyOf.name

/-- One report for each property that is a function. -/
def functionReports (owner : String) (properties : List Property) : List Diagnostic :=
  (functionNames properties).map (fun name => .functionField (.field owner name))

def actionMembers (field : ResolvedProperty) : List String :=
  setMember field.name ::
    (if field.node.isArray then ArrayAction.all.map (ArrayAction.member field.name) else [])

/-- All names that a store defines: its fields, the actions on all of them, and those on each. -/
def storeMembers (name : String) (fields : List ResolvedProperty) : List String :=
  fields.map ResolvedProperty.name ++
    (Naming.setAll name :: Naming.reset name :: fields.flatMap actionMembers)

/-- A store with all its parts. -/
structure Store where
  name : String
  slots : List Slot
  signatures : List Signature
  defaults : List (String × Initial)
  methods : List Method

namespace Store

def fieldSignatures (name : String) (arena : Keyed Declaration) (field : ResolvedProperty) :
    List Signature :=
  let value := Naming.state name ++ "['" ++ field.name ++ "']" ++
    (if field.optional then " | undefined" else "")
  ⟨setMember field.name, "(value: " ++ value ++ ") => void"⟩ ::
    (match field.node with
    | .array element =>
        ArrayAction.all.map (ArrayAction.signature (.ofProperty arena field element))
    | _ => [])

/-- The implementations of the actions on one field. -/
def fieldMethods (arena : Keyed Declaration) (field : ResolvedProperty) : List Method :=
  ⟨setMember field.name, r"(value) => set({ " ++ field.name ++ r": value })", []⟩ ::
    (match field.node with
    | .array element =>
        ArrayAction.all.map (ArrayAction.method (.ofProperty arena field element))
    | _ => [])

def ofFields (name : String) (arena : Keyed Declaration) (fields : List FieldSource) : Store where
  name := name
  slots := fields.map (fun field => Slot.ofProperty arena field.property)
  signatures :=
    ⟨Naming.setAll name, "(state: Partial<" ++ Naming.state name ++ ">) => void"⟩ ::
      ⟨Naming.reset name, "() => void"⟩ ::
      fields.flatMap (fun field => fieldSignatures name arena field.resolved)
  defaults :=
    fields.map (fun field =>
      (field.property.name,
        Initial.ofField arena field.resolved.optional (some field.property.type)))
  methods :=
    ⟨Naming.setAll name, "(state) => set(state)", []⟩ ::
      ⟨Naming.reset name, "() => set(" ++ Naming.defaultState name ++ ")", []⟩ ::
      fields.flatMap (fun field => fieldMethods arena field.resolved)

/-- The store of a declaration. Only exported objects have one. -/
def build (context : Context) (declaration : Declaration) : Outcome Store :=
  let name := declaration.name
  if !declaration.exported then
    .skip [] (.notExported name)
  else
    match declaration.type with
    | .object properties _ =>
        let reports := functionReports name properties
        let fields := fieldSources properties
        match NameSet.repeated (storeMembers name (fields.map FieldSource.resolved)) with
        | [] => ⟨some (ofFields name context.arena fields), reports⟩
        | repeated => .skip reports (.repeatedMembers name repeated)
    | _ => .skip [] (.notObject name)

end Store

end TypeScaffold
