import TypeScaffold.Proofs.Initial.Inlining
import TypeScaffold.Store.Basic

/-!
# Declarations that serve stores alike

A store consults other declarations in three ways: whether there is a store for a reference, how the
value of a referenced type starts, and whether items of a referenced type merge. Declarations that
answer alike under each name give the same stores.
-/

namespace TypeScaffold

/-- A store takes the same from both declarations: what initial values take from them, and whether
items merge, by the kind of the declaration and given the answer for references. -/
structure Declaration.ServesAs (declaration other : Declaration) : Prop where
  start : declaration.start = other.start
  isObjectRoot : declaration.isObjectRoot = other.isObjectRoot
  mergesWith : ∀ reference,
    declaration.type.mergesWith reference = other.type.mergesWith reference

theorem Declaration.ServesAs.hasStore {declaration other : Declaration}
    (serves : declaration.ServesAs other) : declaration.hasStore = other.hasStore :=
  congrArg Prod.fst serves.start

/-- The same names are declared in the same order, and a store takes the same from both declarations
of a name. -/
structure StoresAlike (arena others : Keyed Declaration) : Prop where
  keys : arena.keys = others.keys
  declared : ∀ name, Option.Rel Declaration.ServesAs (arena.get? name) (others.get? name)

/-! ## Type expressions -/

namespace TypeExpr

section Alike

variable {arena others : Keyed Declaration}

mutual

/-- A type expression depends on the declarations only by what is written for a reference. -/
theorem ofNode_congr (alike : ∀ name, ofReference arena name = ofReference others name) :
    ∀ node : TypeNode, ofNode arena node = ofNode others node
  | .primitive _ => rfl
  | .literal _ => rfl
  | .array none => rfl
  | .array (some element) => by rw [ofNode, ofNode, ofNode_congr alike element]
  | .tuple elements => by rw [ofNode, ofNode, ofNodes_congr alike elements]
  | .union members => by rw [ofNode, ofNode, ofNodes_congr alike members]
  | .intersection [] => rfl
  | .intersection (member :: rest) => by
      rw [ofNode, ofNode, ofNode_congr alike member, ofNodes_congr alike rest]
  | .object properties _ => by rw [ofNode, ofNode, ofProperties_congr alike properties]
  | .reference name => alike name
  | .enumeration _ _ => rfl
  | .record (some key) (some value) => by
      rw [ofNode, ofNode, ofNode_congr alike key, ofNode_congr alike value]
  | .record none _ => rfl
  | .record (some _) none => rfl
  | .function => rfl
  | .unknown _ => rfl

theorem ofNodes_congr (alike : ∀ name, ofReference arena name = ofReference others name) :
    ∀ nodes : List TypeNode, ofNodes arena nodes = ofNodes others nodes
  | [] => rfl
  | node :: rest => by rw [ofNodes, ofNodes, ofNode_congr alike node, ofNodes_congr alike rest]

theorem ofProperties_congr (alike : ∀ name, ofReference arena name = ofReference others name) :
    ∀ properties : List Property, ofProperties arena properties = ofProperties others properties
  | [] => rfl
  | ⟨name, type, optional⟩ :: rest => by
      have same := ofNode_congr alike type
      have later := ofProperties_congr alike rest
      cases type with
      | union members =>
          have inner := ofNodes_congr alike members
          rw [ofProperties, ofProperties, inner, later]
      | _ => simp only [ofProperties, same, later]

end

end Alike

end TypeExpr

/-! ## Declared names -/

namespace StoresAlike

/-- Changing each declaration into one that serves stores as before leaves stores alike. -/
theorem of_mapEntries {change : Declaration → Declaration}
    (serves : ∀ declaration, (change declaration).ServesAs declaration)
    (arena : Keyed Declaration) :
    StoresAlike (Keyed.mapEntries (fun _ => change) arena) arena where
  keys := Keyed.keys_mapEntries _ arena
  declared := by
    intro name
    rw [Keyed.get?_mapEntries]
    cases arena.get? name with
    | none => exact Option.Rel.none
    | some declaration => exact Option.Rel.some (serves declaration)

section Alike

variable {arena others : Keyed Declaration} (alike : StoresAlike arena others)

include alike

theorem cases (name : String) :
    (arena.get? name = none ∧ others.get? name = none) ∨
      ∃ declaration other, arena.get? name = some declaration ∧
        others.get? name = some other ∧ declaration.ServesAs other := by
  have declared := alike.declared name
  generalize arena.get? name = first, others.get? name = second at declared
  cases declared with
  | none => exact Or.inl ⟨rfl, rfl⟩
  | some serves => exact Or.inr ⟨_, _, rfl, rfl, serves⟩

/-! ## What a store consults -/

theorem ofReference_eq (name : String) :
    TypeExpr.ofReference arena name = TypeExpr.ofReference others name := by
  rw [TypeExpr.ofReference, TypeExpr.ofReference]
  rcases alike.cases name with ⟨missing, absent⟩ | ⟨declaration, other, found, there, serves⟩
  · rw [missing, absent]
  · rw [found, there]
    simp only [serves.hasStore]

theorem ofNode_eq (node : TypeNode) :
    TypeExpr.ofNode arena node = TypeExpr.ofNode others node :=
  TypeExpr.ofNode_congr alike.ofReference_eq node

theorem referenceMerges_eq (unvisited : List String) (name : String) :
    referenceMerges arena unvisited name = referenceMerges others unvisited name := by
  rw [referenceMerges, referenceMerges]
  rcases alike.cases name with ⟨missing, absent⟩ | ⟨declaration, other, found, there, serves⟩
  · rw [missing, absent]
  · rw [found, there]
    dsimp only
    by_cases fresh : name ∈ unvisited
    · have followed : referenceMerges arena (unvisited.erase name) =
          referenceMerges others (unvisited.erase name) :=
        funext (referenceMerges_eq (unvisited.erase name))
      rw [dif_pos fresh, dif_pos fresh, followed, serves.mergesWith]
    · rw [dif_neg fresh, dif_neg fresh, serves.isObjectRoot]
termination_by unvisited.length
decreasing_by
  have shorter := List.length_erase_of_mem fresh
  have positive := List.length_pos_of_mem fresh
  omega

theorem merges_eq (node : TypeNode) : node.merges arena = node.merges others := by
  rw [TypeNode.merges, TypeNode.merges, alike.keys, funext (alike.referenceMerges_eq others.keys)]

theorem ofType_eq (node : TypeNode) : Initial.ofType arena node = Initial.ofType others node := by
  apply Initial.ofType_congr
  · intro name
    rcases alike.cases name with ⟨missing, absent⟩ | ⟨declaration, other, found, there, serves⟩
    · rw [missing, absent]
    · rw [found, there, Option.map_some, Option.map_some, serves.start]
  · rw [alike.keys]

/-! ## Parts of a store -/

theorem ofField_eq (optional : Bool) (node : Option TypeNode) :
    Initial.ofField arena optional node = Initial.ofField others optional node := by
  cases node with
  | none => rfl
  | some node => rw [Initial.ofField, Initial.ofField, alike.ofType_eq]

theorem arrayField_eq (property : ResolvedProperty) (element : Option TypeNode) :
    ArrayField.ofProperty arena property element =
      ArrayField.ofProperty others property element := by
  cases element with
  | none => rfl
  | some node =>
      simp only [ArrayField.ofProperty, TypeExpr.ofOptional, Option.elim_some, alike.ofNode_eq,
        alike.merges_eq]

theorem fieldSignatures_eq (name : String) (field : ResolvedProperty) :
    Store.fieldSignatures name arena field = Store.fieldSignatures name others field := by
  rw [Store.fieldSignatures, Store.fieldSignatures]
  cases field.node <;> simp only [alike.arrayField_eq]

theorem fieldMethods_eq (field : ResolvedProperty) :
    Store.fieldMethods arena field = Store.fieldMethods others field := by
  rw [Store.fieldMethods, Store.fieldMethods]
  cases field.node <;> simp only [alike.arrayField_eq]

theorem ofFields_eq (name : String) (fields : List FieldSource) :
    Store.ofFields name arena fields = Store.ofFields name others fields := by
  simp only [Store.ofFields, Slot.ofProperty, alike.ofNode_eq, alike.fieldSignatures_eq,
    alike.ofField_eq, alike.fieldMethods_eq]

end Alike

end StoresAlike

end TypeScaffold
