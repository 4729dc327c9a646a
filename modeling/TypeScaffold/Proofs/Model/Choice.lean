import Mathlib.Data.List.Forall2
import TypeScaffold.Model.Choice

/-!
# Members of closed choices

A choice lists one text for each of its members. The key by which objects are told apart is a literal
in each of them.
-/

namespace TypeScaffold

theorem mapM_eq_some_iff {α β : Type} {value? : α → Option β} {items : List α} {values : List β} :
    items.mapM value? = some values ↔
      List.Forall₂ (fun item value => value? item = some value) items values := by
  induction items generalizing values with
  | nil => simp [List.forall₂_nil_left_iff, eq_comm]
  | cons item rest inductionHypothesis =>
      rw [List.mapM_cons, List.forall₂_cons_left_iff]
      simp only [Option.bind_eq_bind, Option.bind_eq_some_iff, Option.pure_def, Option.some.injEq,
        inductionHypothesis]
      constructor
      · rintro ⟨first, found, others, foundOthers, rfl⟩
        exact ⟨first, others, found, foundOthers, rfl⟩
      · rintro ⟨first, others, found, foundOthers, rfl⟩
        exact ⟨first, found, others, foundOthers, rfl⟩

/-- Each item has its value among the values of all. -/
theorem exists_of_mem_mapM {α β : Type} {value? : α → Option β} {items : List α} {values : List β}
    (found : items.mapM value? = some values) {item : α} (member : item ∈ items) :
    ∃ value ∈ values, value? item = some value := by
  rw [mapM_eq_some_iff] at found
  induction found with
  | nil => cases member
  | @cons first value rest others foundFirst _ inductionHypothesis =>
      rcases List.mem_cons.mp member with rfl | later
      · exact ⟨value, List.mem_cons_self, foundFirst⟩
      · obtain ⟨other, there, foundOther⟩ := inductionHypothesis later
        exact ⟨other, List.mem_cons_of_mem value there, foundOther⟩

namespace TypeNode

theorem allOf_eq_some_iff {α β : Type} {value? : α → Option β} {members : List α}
    {values : List β} :
    allOf value? members = some values ↔
      members ≠ [] ∧ List.Forall₂ (fun member value => value? member = some value) members values := by
  cases members with
  | nil => simp [allOf]
  | cons member rest =>
      rw [allOf, mapM_eq_some_iff, and_iff_right (List.cons_ne_nil member rest)]
      exact List.cons_ne_nil member rest

theorem textLiteral?_eq_some_iff {node : TypeNode} {content : String} :
    node.textLiteral? = some content ↔ node = .literal (.text content) := by
  unfold textLiteral?
  split
  · simp
  · rename_i other
    exact iff_of_false (fun found => by cases found) (other content)

/-- A union that is a choice among texts consists of their literals. -/
theorem eq_map_of_textChoices? {members : List TypeNode} {options : List String}
    (found : textChoices? members = some options) :
    members = options.map (fun option => .literal (.text option)) := by
  have each := (allOf_eq_some_iff.mp found).2
  clear found
  induction each with
  | nil => rfl
  | cons here _ inductionHypothesis =>
      rw [List.map_cons, ← inductionHypothesis, textLiteral?_eq_some_iff.mp here]

/-! ## Discriminators -/

/-- The first property of the name, if the type is an object. -/
def property? (key : String) (node : TypeNode) : Option Property :=
  node.properties?.bind (fun properties => properties.find? (fun property => property.name == key))

theorem properties?_eq_some_iff {node : TypeNode} {properties : List Property} :
    node.properties? = some properties ↔ ∃ name, node = .object properties name := by
  cases node with
  | object own name => simp [properties?]
  | _ => simp [properties?]

/-- A property that is found is one of the object's and has the name. -/
theorem exists_of_property? {key : String} {node : TypeNode} {property : Property}
    (found : node.property? key = some property) :
    ∃ properties name, node = .object properties name ∧ property ∈ properties ∧
      property.name = key := by
  obtain ⟨properties, object, there⟩ := Option.bind_eq_some_iff.mp found
  have named := List.find?_some there
  obtain ⟨name, rfl⟩ := properties?_eq_some_iff.mp object
  exact ⟨properties, name, rfl, List.mem_of_find?_eq_some there, eq_of_beq named⟩

/-- The literal that the first property of the name is, if the type is an object. -/
def literalAt? (key : String) (node : TypeNode) : Option Scalar :=
  (node.property? key).bind (fun property =>
    match property.type with
    | .literal value => some value
    | _ => none)

theorem literalAt?_eq_some_iff {key : String} {node : TypeNode} {value : Scalar} :
    node.literalAt? key = some value ↔
      ∃ property, node.property? key = some property ∧ property.type = .literal value := by
  rw [literalAt?, Option.bind_eq_some_iff]
  refine exists_congr (fun property => and_congr_right (fun _ => ?_))
  split
  · rename_i other equal
    rw [equal, Option.some.injEq, TypeNode.literal.injEq]
  · rename_i other
    simpa using other value

theorem isSome_literalAt?_of_hasLiteral {key : String} {node : TypeNode} {properties : List Property}
    (object : node.properties? = some properties) (literal : hasLiteral key properties = true) :
    (node.literalAt? key).isSome = true := by
  unfold hasLiteral at literal
  split at literal
  · rename_i property found
    unfold isLiteral at literal
    split at literal
    · rename_i value equal
      rw [literalAt?, property?, object, Option.bind_some, found, Option.bind_some, equal]
      rfl
    · cases literal
  · cases literal

/-- The objects that are told apart by a key have a literal under it, each of them. -/
theorem isSome_literalAt?_of_discriminator? {members : List TypeNode} {key : String}
    (found : discriminator? members = some key) :
    ∀ member ∈ members, (member.literalAt? key).isSome = true := by
  unfold discriminator? at found
  split at found
  · rename_i first others objects
    obtain ⟨property, foundFirst, rfl⟩ := Option.map_eq_some_iff.mp found
    have literals := List.find?_some foundFirst
    rw [Bool.and_eq_true, List.all_eq_true] at literals
    intro member there
    obtain ⟨properties, inObjects, object⟩ := exists_of_mem_mapM objects there
    exact isSome_literalAt?_of_hasLiteral object (literals.2 properties inObjects)
  · cases found

end TypeNode

end TypeScaffold
