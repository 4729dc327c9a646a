import TypeScaffold.Proofs.Model.Literals
import TypeScaffold.Proofs.TypeExpr.Parts

/-!
# Literals in type expressions

A type expression writes the literals of the type that it stands for, each once and in their order. That
an optional property is written without `undefined` takes none of them away.
-/

namespace TypeScaffold

namespace TypeExpr

mutual

/-- The values that a type expression writes as literals, in the order of its text. -/
def literals : TypeExpr → List Scalar
  | .literal value => [value]
  | .array inner | .parenthesized inner => literals inner
  | .tuple types | .union types | .intersection types => literalsOfAll types
  | .object slots => literalsOfSlots slots
  | .record key value => literals key ++ literals value
  | .named _ | .callback => []
termination_by structural type => type

/-- The literals of type expressions in order. -/
def literalsOfAll : List TypeExpr → List Scalar
  | [] => []
  | type :: rest => literals type ++ literalsOfAll rest
termination_by structural types => types

/-- The literals of the parts of an object in order. -/
def literalsOfSlots : List (SlotOf TypeExpr) → List Scalar
  | [] => []
  | ⟨_, _, type⟩ :: rest => literals type ++ literalsOfSlots rest
termination_by structural slots => slots

end

variable {arena : Keyed Declaration}

theorem literals_ofAlternatives (types : List TypeExpr) :
    (ofAlternatives types).literals = literalsOfAll types := by
  cases types <;> rfl

theorem literals_ofReference (name : String) : (ofReference arena name).literals = [] := by
  unfold ofReference
  split <;> rfl

theorem literalsOfAll_literals (members : List EnumMember) :
    literalsOfAll (members.map (fun member => .literal member.value.scalar)) =
      members.map (fun member => member.value.scalar) := by
  induction members with
  | nil => rfl
  | cons member rest inductionHypothesis =>
      rw [List.map_cons, literalsOfAll, inductionHypothesis]
      rfl

/-- `undefined` is no literal. -/
theorem literals_ofNode_withoutUndefined (type : TypeNode) :
    (ofNode arena type.withoutUndefined).literals = (ofNode arena type).literals := by
  cases unwrapped : type.unwrapOptional? with
  | none => rw [TypeNode.withoutUndefined_of_eq_none unwrapped]
  | some core =>
      rw [TypeNode.withoutUndefined_of_eq_some unwrapped]
      unfold TypeNode.unwrapOptional? at unwrapped
      split at unwrapped
      · rename_i members
        have beside : companion? TypeNode.isUndefined members (members.map id) = some core := by
          rwa [List.map_id]
        obtain ⟨missing, node, placed, passes, -, rfl⟩ := exists_of_companion?_map beside
        obtain rfl := TypeNode.eq_of_isPrimitive passes
        rw [ofNode, literals_ofAlternatives, ofNodes_eq_map]
        rcases placed with rfl | rfl <;> simp [literalsOfAll, ofNode, literals]
      · cases unwrapped

mutual

/-- A type expression has the literals of the type for which it stands. -/
theorem literals_ofNode : ∀ node : TypeNode, (ofNode arena node).literals = node.literals
  | .primitive _ => rfl
  | .literal _ => rfl
  | .array none => rfl
  | .array (some element) => by
      have inner := literals_ofNode element
      rw [ofNode, TypeNode.literals, ← inner]
      split <;> rfl
  | .tuple elements => literalsOfAll_ofNodes elements
  | .union members => by
      rw [ofNode, literals_ofAlternatives]
      exact literalsOfAll_ofNodes members
  | .intersection [] => rfl
  | .intersection (member :: rest) => literalsOfAll_ofNodes (member :: rest)
  | .object properties _ => literalsOfSlots_ofProperties properties
  | .reference name => literals_ofReference name
  | .enumeration members _ => by
      rw [ofNode, literals_ofAlternatives, literalsOfAll_literals, TypeNode.literals]
  | .record (some key) (some value) => by
      rw [ofNode, literals, literals_ofNode key, literals_ofNode value, TypeNode.literals]
  | .record none _ => rfl
  | .record (some _) none => rfl
  | .function => rfl
  | .unknown _ => rfl

theorem literalsOfAll_ofNodes :
    ∀ nodes : List TypeNode, literalsOfAll (ofNodes arena nodes) = TypeNode.literalsOfAll nodes
  | [] => rfl
  | node :: rest => by
      rw [ofNodes, literalsOfAll, literals_ofNode node, literalsOfAll_ofNodes rest,
        TypeNode.literalsOfAll]

theorem literalsOfSlots_ofProperties :
    ∀ properties : List Property,
      literalsOfSlots (ofProperties arena properties) = TypeNode.literalsOfProperties properties
  | [] => rfl
  | ⟨name, type, optional⟩ :: rest => by
      rw [TypeNode.literalsOfProperties, ← literals_ofNode type,
        ← literals_ofNode_withoutUndefined, ← literalsOfSlots_ofProperties rest,
        ofProperties_eq_map, ofProperties_eq_map]
      rfl

end

end TypeExpr

end TypeScaffold
