import TypeScaffold.Proofs.TypeExpr.Grouping

/-!
# Parts of types

What is read of an intersection stands in what is read of each type that has it as a part: an
element shows its operators in parentheses or has none, and all other parts stand in brackets or
between `|`. An optional property is written without `undefined`, which is no loss.
-/

namespace TypeScaffold

/-- The type stands in another: as the element of an array or a tuple, as a member of a union, as a
key, a value or a property, at any depth. -/
inductive TypeNode.IsPartOf (part : TypeNode) : TypeNode → Prop where
  | self : IsPartOf part part
  | element {element : TypeNode} (inner : IsPartOf part element) :
      IsPartOf part (.array (some element))
  | tuple {elements : List TypeNode} {element : TypeNode} (member : element ∈ elements)
      (inner : IsPartOf part element) : IsPartOf part (.tuple elements)
  | union {members : List TypeNode} {node : TypeNode} (member : node ∈ members)
      (inner : IsPartOf part node) : IsPartOf part (.union members)
  | property {properties : List Property} {name : Option String} {property : Property}
      (member : property ∈ properties) (inner : IsPartOf part property.type) :
      IsPartOf part (.object properties name)
  | key {key value : TypeNode} (inner : IsPartOf part key) :
      IsPartOf part (.record (some key) (some value))
  | value {key value : TypeNode} (inner : IsPartOf part value) :
      IsPartOf part (.record (some key) (some value))

namespace TypeExpr

/-- The type expression stands in another, at any depth. -/
inductive IsPartOf (part : TypeExpr) : TypeExpr → Prop where
  | self : IsPartOf part part
  | array {element : TypeExpr} (inner : IsPartOf part element) : IsPartOf part (.array element)
  | tuple {elements : List TypeExpr} {element : TypeExpr} (member : element ∈ elements)
      (inner : IsPartOf part element) : IsPartOf part (.tuple elements)
  | union {members : List TypeExpr} {type : TypeExpr} (member : type ∈ members)
      (inner : IsPartOf part type) : IsPartOf part (.union members)
  | slot {slots : List Slot} {slot : Slot} (member : slot ∈ slots)
      (inner : IsPartOf part slot.type) : IsPartOf part (.object slots)
  | key {key value : TypeExpr} (inner : IsPartOf part key) : IsPartOf part (.record key value)
  | value {key value : TypeExpr} (inner : IsPartOf part value) : IsPartOf part (.record key value)
  | parenthesized {type : TypeExpr} (inner : IsPartOf part type) :
      IsPartOf part (.parenthesized type)

/-! ## Lists of terms -/

theorem termsOfAll_eq_map (types : List TypeExpr) : termsOfAll types = types.map terms := by
  induction types with
  | nil => rfl
  | cons type rest inductionHypothesis => rw [termsOfAll, List.map_cons, inductionHypothesis]

theorem readSlots_eq_map (slots : List Slot) :
    readSlots slots = slots.map (fun slot => ⟨slot.name, slot.optional, slot.type.asRead⟩) := by
  induction slots with
  | nil => rfl
  | cons slot rest inductionHypothesis => rw [readSlots, List.map_cons, inductionHypothesis, asRead]

theorem ofNodes_eq_map (arena : Keyed Declaration) (nodes : List TypeNode) :
    ofNodes arena nodes = nodes.map (ofNode arena) := by
  induction nodes with
  | nil => rfl
  | cons node rest inductionHypothesis => rw [ofNodes, List.map_cons, inductionHypothesis]

/-- An object has the parts that a state with its properties would have. -/
theorem ofProperties_eq_map (arena : Keyed Declaration) (properties : List Property) :
    ofProperties arena properties = properties.map (Slot.ofProperty arena) := by
  induction properties with
  | nil => rfl
  | cons property rest inductionHypothesis =>
      obtain ⟨name, type, optional⟩ := property
      rw [List.map_cons, ← inductionHypothesis, Slot.ofProperty, PropertyOf.isOptional,
        TypeNode.withoutUndefined]
      cases type with
      | union members =>
          have core : TypeNode.optionalCore? members (ofNodes arena members) =
              (TypeNode.optionalCore? members members).map (ofNode arena) := by
            rw [ofNodes_eq_map]
            exact companion?_map _ _ _ _
          rw [ofProperties, core, TypeNode.unwrapOptional?]
          cases TypeNode.optionalCore? members members with
          | none => simp [ofNode]
          | some node => simp
      | _ => simp [ofProperties, TypeNode.unwrapOptional?]

/-! ## Parts of what is read -/

/-- One of the alternatives that the type shows has the part. -/
def Shows (part type : TypeExpr) : Prop :=
  ∃ operands ∈ type.terms, IsPartOf part (ofOperands operands)

theorem Shows.isPartOf_asRead {part type : TypeExpr} (shows_part : Shows part type) :
    IsPartOf part type.asRead := by
  obtain ⟨operands, member, inner⟩ := shows_part
  rw [asRead]
  rcases shown : type.terms with _ | ⟨first, _ | ⟨second, rest⟩⟩
  · rw [shown] at member
    cases member
  · rw [shown] at member
    rw [List.mem_singleton.mp member] at inner
    exact inner
  · rw [shown] at member
    exact .union (List.mem_map_of_mem member) inner

theorem shows_of_terms_eq {part type operand : TypeExpr} (single : type.terms = [[operand]])
    (inner : IsPartOf part operand) : Shows part type :=
  ⟨[operand], single ▸ List.mem_singleton_self _, inner⟩

section Parts

variable {arena : Keyed Declaration} {part : TypeNode} {target : TypeExpr}

/-- A type shows the part, also if it is the type of an optional property, and it shows nothing
beside it unless it is put in parentheses as an element. -/
structure Keeps (arena : Keyed Declaration) (target : TypeExpr) (node : TypeNode) : Prop where
  whole : Shows target (ofNode arena node)
  present : Shows target (ofNode arena node.withoutUndefined)
  single : groupedAsElement node = false → ∃ operand, (ofNode arena node).terms = [[operand]]

theorem keeps_of_terms_eq {node : TypeNode} {operand : TypeExpr}
    (required : node.withoutUndefined = node) (single : (ofNode arena node).terms = [[operand]])
    (inner : IsPartOf target operand) : Keeps arena target node := by
  have whole := shows_of_terms_eq single inner
  refine ⟨whole, ?_, fun _ => ⟨operand, single⟩⟩
  rw [required]
  exact whole

theorem keeps_array {element : TypeNode} (keeps : Keeps arena target element) :
    Keeps arena target (.array (some element)) := by
  cases grouped : groupedAsElement element with
  | true =>
      have shown : (ofNode arena (.array (some element))).terms =
          [[array (.parenthesized (ofNode arena element).asRead)]] := by
        rw [ofNode, if_pos grouped]
        rfl
      exact keeps_of_terms_eq rfl shown (.array (.parenthesized keeps.whole.isPartOf_asRead))
  | false =>
      obtain ⟨operand, single⟩ := keeps.single grouped
      have shown : (ofNode arena (.array (some element))).terms = [[array operand]] := by
        rw [ofNode, grouped, if_neg Bool.false_ne_true, terms, single]
        rfl
      have read : (ofNode arena element).asRead = operand := by
        rw [asRead, single]
        rfl
      exact keeps_of_terms_eq rfl shown (.array (read ▸ keeps.whole.isPartOf_asRead))

theorem shows_union {members : List TypeNode} {node : TypeNode} (member : node ∈ members)
    (inner : Shows target (ofNode arena node)) : Shows target (ofNode arena (.union members)) := by
  obtain ⟨operands, shown, contains⟩ := inner
  have there : ofNode arena node ∈ ofNodes arena members := by
    rw [ofNodes_eq_map]
    exact List.mem_map_of_mem member
  refine ⟨operands, ?_, contains⟩
  rw [ofNode, terms_ofAlternatives (List.ne_nil_of_mem there), termsOfAll_eq_map]
  exact List.mem_flatten.mpr ⟨_, List.mem_map_of_mem there, shown⟩

/-- An optional union without `undefined` still has every part that is not in `undefined`. -/
theorem keeps_union {members : List TypeNode} {node : TypeNode} (member : node ∈ members)
    (present : node.isUndefined = false) (keeps : Keeps arena target node) :
    Keeps arena target (.union members) := by
  have whole := shows_union member keeps.whole
  refine ⟨whole, ?_, fun alone => by cases alone⟩
  rw [TypeNode.withoutUndefined]
  cases unwrapped : (TypeNode.union members).unwrapOptional? with
  | none => exact whole
  | some core =>
      have found : companion? TypeNode.isUndefined members (members.map id) = some core := by
        rw [List.map_id]
        exact unwrapped
      obtain ⟨missing, other, placed, passes, _, equal⟩ := exists_of_companion?_map found
      have same : node = other := by
        rcases placed with rfl | rfl
        · rcases List.mem_cons.mp member with rfl | last
          · rw [present] at passes
            cases passes
          · exact List.mem_singleton.mp last
        · rcases List.mem_cons.mp member with rfl | last
          · rfl
          · rw [List.mem_singleton.mp last, passes] at present
            cases present
      rw [Option.getD_some, equal, id_eq, ← same]
      exact keeps.whole

theorem keeps_property {properties : List Property} {property : Property} {name : Option String}
    (member : property ∈ properties) (keeps : Keeps arena target property.type) :
    Keeps arena target (.object properties name) := by
  have slot : (⟨property.name, property.isOptional,
      (ofNode arena property.type.withoutUndefined).asRead⟩ : Slot) ∈
      readSlots (ofProperties arena properties) := by
    rw [readSlots_eq_map, ofProperties_eq_map, List.map_map]
    exact List.mem_map_of_mem member
  exact keeps_of_terms_eq rfl rfl (.slot slot keeps.present.isPartOf_asRead)

theorem asRead_mem_tuple {elements : List TypeNode} {element : TypeNode}
    (member : element ∈ elements) :
    (ofNode arena element).asRead ∈ (termsOfAll (ofNodes arena elements)).map ofTerms := by
  rw [termsOfAll_eq_map, ofNodes_eq_map, List.map_map, List.map_map]
  exact List.mem_map_of_mem member

/-- What a part shows is shown by every type in which the part stands. -/
theorem keeps_of_isPartOf (keeps : Keeps arena target part) (present : part.isUndefined = false)
    {outer : TypeNode} (stands : part.IsPartOf outer) : Keeps arena target outer := by
  induction stands with
  | self => exact keeps
  | element _ inductionHypothesis => exact keeps_array inductionHypothesis
  | tuple member _ inductionHypothesis =>
      have inner := inductionHypothesis.whole.isPartOf_asRead
      exact keeps_of_terms_eq rfl rfl (.tuple (asRead_mem_tuple member) inner)
  | @union nodes node member inner inductionHypothesis =>
      refine keeps_union member ?_ inductionHypothesis
      cases inner with
      | self => exact present
      | _ => rfl
  | property member _ inductionHypothesis => exact keeps_property member inductionHypothesis
  | key _ inductionHypothesis =>
      exact keeps_of_terms_eq rfl rfl (.key inductionHypothesis.whole.isPartOf_asRead)
  | value _ inductionHypothesis =>
      exact keeps_of_terms_eq rfl rfl (.value inductionHypothesis.whole.isPartOf_asRead)

end Parts

end TypeExpr

end TypeScaffold
