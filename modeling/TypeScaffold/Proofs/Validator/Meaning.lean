import Mathlib.Data.List.Nodup
import TypeScaffold.Proofs.Keyed
import TypeScaffold.Proofs.Validator.Discriminator
import TypeScaffold.Proofs.Validator.Literals

/-!
# Validators keep the meaning of types

The validator of a type accepts the values of the type and no others, whichever rule made the
validator of a union. The names in an object have to differ, an intersection needs a member, and objects
that are told apart by a key must require different literals there. A number that is not finite
cannot be written, so the text of a validator is a validator only where there is none.
-/

namespace TypeScaffold

namespace TypeNode

/-- The objects require literals under the key of which no two stand for one value. -/
structure AreToldApart (key : String) (members : List TypeNode) : Prop where
  required : ∀ member ∈ members, ∀ property, member.property? key = some property →
    property.optional = false
  distinct : members.Pairwise (fun first second => ¬ first.SharesLiteral key second)

/-- Every object in the type has distinct names, every intersection a member, and objects that have a
discriminator are told apart by it. -/
inductive IsRegular : TypeNode → Prop where
  | primitive (name : String) : IsRegular (.primitive name)
  | literal (value : Scalar) : IsRegular (.literal value)
  | elementless : IsRegular (.array none)
  | array {element : TypeNode} (regular : IsRegular element) : IsRegular (.array (some element))
  | tuple {elements : List TypeNode} (each : ∀ element ∈ elements, IsRegular element) :
      IsRegular (.tuple elements)
  | union {members : List TypeNode} (each : ∀ member ∈ members, IsRegular member)
      (apart : ∀ key, discriminator? members = some key → AreToldApart key members) :
      IsRegular (.union members)
  | intersection {members : List TypeNode} (filled : members ≠ [])
      (each : ∀ member ∈ members, IsRegular member) : IsRegular (.intersection members)
  | object {properties : List Property} (name : Option String)
      (distinct : (properties.map PropertyOf.name).Nodup)
      (each : ∀ property ∈ properties, IsRegular property.type) :
      IsRegular (.object properties name)
  | reference (name : String) : IsRegular (.reference name)
  | enumeration (members : List EnumMember) (name : Option String) :
      IsRegular (.enumeration members name)
  | record {key value : TypeNode} (regularKey : IsRegular key) (regularValue : IsRegular value) :
      IsRegular (.record (some key) (some value))
  | keyless (value : Option TypeNode) : IsRegular (.record none value)
  | valueless (key : Option TypeNode) : IsRegular (.record key none)
  | function : IsRegular .function
  | unknown (rawText : Option String) : IsRegular (.unknown rawText)

end TypeNode

namespace Validator

variable {meaning : String → Value → Prop} {value : Value}

/-! ## Tuples -/

theorem acceptsEach_ofNodes {nodes : List TypeNode} {values : List Value}
    (each : ∀ node ∈ nodes, ∀ value,
      (ofNode node).Accepts meaning value ↔ node.Holds meaning value) :
    AcceptsEach meaning (ofNodes nodes) values ↔ TypeNode.HoldsEach meaning nodes values := by
  induction nodes generalizing values with
  | nil => rfl
  | cons node rest inductionHypothesis =>
      obtain ⟨first, others⟩ := List.forall_mem_cons.mp each
      simp only [ofNodes, AcceptsEach, TypeNode.HoldsEach, first, inductionHypothesis others]

/-! ## Objects -/

theorem map_fst_ofProperties (properties : List Property) :
    (ofProperties properties).map Prod.fst = properties.map PropertyOf.name := by
  rw [ofProperties_eq_map, List.map_map]
  rfl

theorem accepts_ofProperty {property : Property}
    (same : (ofNode property.type).Accepts meaning value ↔ property.type.Holds meaning value) :
    (ofProperty property).Accepts meaning value ↔
      property.optional = true ∧ value = .undefined ∨ property.type.Holds meaning value := by
  rw [ofProperty]
  cases property.optional with
  | true => rw [if_pos rfl, accepts_asOptional, same, and_iff_right rfl]
  | false =>
      rw [if_neg Bool.false_ne_true, same,
        or_iff_right (fun marked => Bool.false_ne_true marked.1)]

theorem acceptsFields_ofProperties {properties : List Property} {entries : Keyed Value}
    (distinct : (properties.map PropertyOf.name).Nodup)
    (each : ∀ property ∈ properties, ∀ value,
      (ofNode property.type).Accepts meaning value ↔ property.type.Holds meaning value) :
    AcceptsFields meaning (ofProperties properties) entries ↔
      TypeNode.HoldsProperties meaning properties entries := by
  rw [acceptsFields_iff (map_fst_ofProperties properties ▸ distinct), ofProperties_eq_map,
    List.forall_mem_map, TypeNode.holdsProperties_iff]
  exact forall₂_congr (fun property member => accepts_ofProperty (each property member _))

/-! ## Objects told apart -/

/-- A required literal of an object is what its validator asks for under the key. -/
theorem literalAt?_ofNode {key : String} {node : TypeNode} {literal : Scalar}
    (regular : node.IsRegular) (found : node.literalAt? key = some literal)
    (required : ∀ property, node.property? key = some property → property.optional = false) :
    (ofNode node).literalAt? key = some literal := by
  obtain ⟨property, there, isLiteral⟩ := TypeNode.literalAt?_eq_some_iff.mp found
  have unmarked := required property there
  obtain ⟨properties, name, rfl, inObject, named⟩ := TypeNode.exists_of_property? there
  cases regular with
  | object _ distinct _ =>
      have member : (key, Validator.literal literal) ∈ (ofProperties properties).reverse := by
        rw [List.mem_reverse, ofProperties_eq_map, List.mem_map]
        refine ⟨property, inObject, Prod.ext named ?_⟩
        rw [ofProperty, unmarked, isLiteral]
        rfl
      have distinctKeys : (Keyed.keys (ofProperties properties).reverse).Nodup := by
        rw [Keyed.keys, List.map_reverse, List.nodup_reverse, map_fst_ofProperties]
        exact distinct
      rw [ofNode, Validator.literalAt?, (Keyed.get?_eq_some_iff distinctKeys).mpr member]

/-- An object that belongs to the type has the required literal. -/
theorem matches_of_holds {key : String} {node : TypeNode} {literal : Scalar} {entries : Keyed Value}
    (found : node.literalAt? key = some literal)
    (required : ∀ property, node.property? key = some property → property.optional = false)
    (holds : node.Holds meaning (.object entries)) : node.Matches key entries := by
  obtain ⟨property, there, isLiteral⟩ := TypeNode.literalAt?_eq_some_iff.mp found
  have unmarked := required property there
  obtain ⟨properties, name, rfl, inObject, named⟩ := TypeNode.exists_of_property? there
  obtain ⟨others, same, holdProperties⟩ := holds
  obtain rfl := Value.object.inj same
  have here := TypeNode.holdsProperties_iff.mp holdProperties property inObject
  rw [unmarked, named, isLiteral] at here
  exact ⟨literal, found, here.resolve_left (fun marked => nomatch marked.1)⟩

theorem accepts_discriminated {key : String} {members : List TypeNode}
    (found : TypeNode.discriminator? members = some key)
    (apart : TypeNode.AreToldApart key members)
    (regular : ∀ member ∈ members, member.IsRegular)
    (each : ∀ member ∈ members, ∀ value,
      (ofNode member).Accepts meaning value ↔ member.Holds meaning value) :
    (Validator.discriminated key (ofNodes members)).Accepts meaning value ↔
      ∃ member ∈ members, member.Holds meaning value := by
  have literal : ∀ member ∈ members, ∃ value, member.literalAt? key = some value :=
    fun member there => Option.isSome_iff_exists.mp
      (TypeNode.isSome_literalAt?_of_discriminator? found member there)
  have same : ∀ member ∈ members, ∀ entries,
      (ofNode member).Matches key entries ↔ member.Matches key entries := by
    intro member there entries
    obtain ⟨value, isLiteral⟩ := literal member there
    rw [Matches, TypeNode.Matches, isLiteral,
      literalAt?_ofNode (regular member there) isLiteral (apart.required member there)]
  have decided : ∀ entries, AcceptsMatching meaning key (members.map ofNode) entries ↔
      ∃ member ∈ members, member.Holds meaning (.object entries) := by
    intro entries
    rw [acceptsMatching_iff]
    · simp only [List.mem_map, exists_exists_and_eq_and]
      exact exists_congr (fun member => and_congr_right (fun there => each member there _))
    · intro validator inImages accepts
      obtain ⟨member, there, rfl⟩ := List.mem_map.mp inImages
      obtain ⟨value, isLiteral⟩ := literal member there
      rw [same member there]
      exact matches_of_holds isLiteral (apart.required member there)
        ((each member there _).mp accepts)
    · rw [List.pairwise_map]
      refine apart.distinct.imp_of_mem (fun {first second} inFirst inSecond distinct both => ?_)
      rw [same first inFirst, same second inSecond] at both
      exact distinct (TypeNode.exists_matches_both_iff.mp ⟨entries, both⟩)
  rw [ofNodes_eq_map]
  constructor
  · rintro ⟨entries, rfl, accepts⟩
    exact (decided entries).mp accepts
  · rintro ⟨member, there, holds⟩
    obtain ⟨value, isLiteral⟩ := literal member there
    obtain ⟨property, found, _⟩ := TypeNode.literalAt?_eq_some_iff.mp isLiteral
    obtain ⟨properties, name, rfl, _, _⟩ := TypeNode.exists_of_property? found
    obtain ⟨entries, rfl, _⟩ := holds
    exact ⟨entries, rfl, (decided entries).mpr ⟨_, there, entries, rfl, ‹_›⟩⟩

/-! ## Unions -/

theorem exists_mem_pair {α : Type} {members : List α} {first second : α} {accepts : α → Prop}
    (placed : members = [first, second] ∨ members = [second, first]) :
    (∃ member ∈ members, accepts member) ↔ accepts first ∨ accepts second := by
  rcases placed with rfl | rfl
  · simp
  · simp [or_comm]

/-- What stands beside a primitive in a union accepts all but the value of the primitive. -/
theorem accepts_of_companion? {name : String} {members : List TypeNode} {core : Validator}
    (found : companion? (TypeNode.isPrimitive name) members (ofNodes members) = some core)
    (each : ∀ member ∈ members, ∀ value,
      (ofNode member).Accepts meaning value ↔ member.Holds meaning value) :
    value.IsPrimitive name ∨ core.Accepts meaning value ↔
      ∃ member ∈ members, member.Holds meaning value := by
  rw [ofNodes_eq_map] at found
  obtain ⟨missing, node, placed, passes, _, rfl⟩ := exists_of_companion?_map found
  obtain rfl := TypeNode.eq_of_isPrimitive passes
  have inMembers : node ∈ members := by rcases placed with rfl | rfl <;> simp
  rw [exists_mem_pair placed, each node inMembers]
  rfl

theorem accepts_choice {options : List String} :
    (Validator.choice options).Accepts meaning value ↔
      ∃ scalar ∈ options.map Scalar.text, scalar.Denotes value := by
  simp only [Accepts, List.mem_map, exists_exists_and_eq_and, Scalar.denotes_text_iff]

theorem accepts_textChoices? {members : List TypeNode} {options : List String}
    (found : TypeNode.textChoices? members = some options) :
    (Validator.choice options).Accepts meaning value ↔
      ∃ member ∈ members, member.Holds meaning value := by
  rw [accepts_choice, TypeNode.eq_map_of_textChoices? found]
  simp only [List.mem_map, exists_exists_and_eq_and]
  rfl

/-- Whichever rule makes the validator of a union, it accepts the values of the members. -/
theorem accepts_ofUnion {members : List TypeNode}
    (apart : ∀ key, TypeNode.discriminator? members = some key →
      TypeNode.AreToldApart key members)
    (regular : ∀ member ∈ members, member.IsRegular)
    (each : ∀ member ∈ members, ∀ value,
      (ofNode member).Accepts meaning value ↔ member.Holds meaning value) :
    (ofUnion members (ofNodes members)).Accepts meaning value ↔
      ∃ member ∈ members, member.Holds meaning value := by
  unfold ofUnion
  split
  · exact iff_of_false id (fun ⟨_, member, _⟩ => nomatch member)
  · split
    · rename_i core found
      rw [accepts_asOptional]
      exact accepts_of_companion? found each
    · split
      · rename_i core found
        unfold TypeNode.nullableCore? at found
        split at found
        · cases found
        · exact accepts_of_companion? found each
      · split
        · rename_i options found
          exact accepts_textChoices? found
        · split
          · rename_i key found
            exact accepts_discriminated found (apart key found) regular each
          · rw [Accepts, acceptsSome_iff, ofNodes_eq_map]
            simp only [List.mem_map, exists_exists_and_eq_and]
            exact exists_congr (fun member => and_congr_right (fun there => each member there value))

/-! ## Enumerations and raw texts -/

theorem accepts_ofEnumeration {members : List EnumMember} :
    (ofEnumeration members).Accepts meaning value ↔
      ∃ member ∈ members, member.value.scalar.Denotes value := by
  unfold ofEnumeration
  split
  · exact iff_of_false id (fun ⟨_, member, _⟩ => nomatch member)
  · split
    · rename_i options found
      rw [accepts_choice, map_text_of_enumeration found]
      simp only [List.mem_map, exists_exists_and_eq_and]
    · rw [Accepts, acceptsSome_iff]
      simp only [List.mem_map, exists_exists_and_eq_and]
      rfl

theorem accepts_ofRawText {rawText : Option String} : (ofRawText rawText).Accepts meaning value := by
  unfold ofRawText
  split <;> trivial

/-! ## Types -/

mutual

/-- The validator of a type accepts the values of the type and no others. -/
theorem accepts_ofNode_iff {meaning : String → Value → Prop} :
    ∀ {node : TypeNode}, node.IsRegular → ∀ value,
      (ofNode node).Accepts meaning value ↔ node.Holds meaning value
  | .primitive _, _, _ => accepts_ofPrimitive
  | .literal _, _, _ => Iff.rfl
  | .array none, _, _ => by
      simp [ofNode, Accepts, TypeNode.Holds]
  | .array (some element), regular, value => by
      cases regular with
      | array regular =>
          have same := @accepts_ofNode_iff meaning _ regular
          simp only [ofNode, Accepts, TypeNode.Holds, same]
  | .tuple elements, regular, value => by
      cases regular with
      | tuple each =>
          have same := @accepts_ofNodes_iff meaning _ each
          rw [ofNode, Accepts, TypeNode.Holds]
          exact exists_congr (fun items => and_congr_right (fun _ => acceptsEach_ofNodes same))
  | .union members, regular, value => by
      cases regular with
      | union each apart =>
          rw [ofNode, TypeNode.Holds, TypeNode.holdsSome_iff]
          exact accepts_ofUnion apart each (accepts_ofNodes_iff each)
  | .intersection members, regular, value => by
      cases regular with
      | intersection filled each =>
          have same := @accepts_ofNodes_iff meaning _ each
          rw [ofNode, TypeNode.Holds, TypeNode.holdsAll_iff, ofNodes_eq_map,
            accepts_all (mt List.map_eq_nil_iff.mp filled), List.forall_mem_map]
          exact forall₂_congr (fun member there => same member there value)
  | .object properties _, regular, value => by
      cases regular with
      | object _ distinct each =>
          have same := @accepts_ofProperties_iff meaning _ each
          exact exists_congr (fun entries => and_congr_right (fun _ =>
            acceptsFields_ofProperties distinct same))
  | .reference _, _, _ => Iff.rfl
  | .enumeration _ _, _, _ => accepts_ofEnumeration
  | .record (some key) (some content), regular, value => by
      cases regular with
      | record regularKey regularValue =>
          have sameKey := @accepts_ofNode_iff meaning _ regularKey
          have sameValue := @accepts_ofNode_iff meaning _ regularValue
          simp only [ofNode, Accepts, TypeNode.Holds, sameKey, sameValue]
  | .record none _, _, _ => by
      simp [ofNode, Accepts, TypeNode.Holds, Builtin.Accepts]
  | .record (some _) none, _, _ => by
      simp [ofNode, Accepts, TypeNode.Holds, Builtin.Accepts]
  | .function, _, _ => Iff.rfl
  | .unknown _, _, _ => iff_of_true accepts_ofRawText trivial

theorem accepts_ofNodes_iff {meaning : String → Value → Prop} :
    ∀ {nodes : List TypeNode}, (∀ node ∈ nodes, node.IsRegular) → ∀ node ∈ nodes, ∀ value,
      (ofNode node).Accepts meaning value ↔ node.Holds meaning value
  | [], _ => fun _ member => nomatch member
  | _ :: _, each => by
      obtain ⟨first, others⟩ := List.forall_mem_cons.mp each
      exact List.forall_mem_cons.mpr ⟨accepts_ofNode_iff first, accepts_ofNodes_iff others⟩

theorem accepts_ofProperties_iff {meaning : String → Value → Prop} :
    ∀ {properties : List Property}, (∀ property ∈ properties, property.type.IsRegular) →
      ∀ property ∈ properties, ∀ value,
        (ofNode property.type).Accepts meaning value ↔ property.type.Holds meaning value
  | [], _ => fun _ member => nomatch member
  | ⟨_, _, _⟩ :: _, each => by
      obtain ⟨first, others⟩ := List.forall_mem_cons.mp each
      exact List.forall_mem_cons.mpr ⟨accepts_ofNode_iff first, accepts_ofProperties_iff others⟩

end

/-- The validator of a regular type accepts the values of the type and no others, and its text writes
every literal as one just when all of them are finite. -/
theorem ofNode_keeps_meaning {node : TypeNode} (regular : node.IsRegular) :
    ((ofNode node).IsWritten ↔ ∀ value ∈ node.literals, value.IsFinite) ∧
      ∀ meaning value, (ofNode node).Accepts meaning value ↔ node.Holds meaning value :=
  ⟨isWritten_ofNode_iff, fun _ => accepts_ofNode_iff regular⟩

/-- A way to pay: the kind tells which, the amount may be unknown and the note may be missing. -/
def payment (kind : String) (detail : Property) : TypeNode :=
  .object [⟨"kind", .literal (.text kind), false⟩, detail,
    ⟨"amount", .union [.primitive "number", .primitive "null"], false⟩,
    ⟨"note", .union [.primitive "undefined", .primitive "string"], true⟩] none

/-- A card or a transfer to an account. -/
def cardOrTransfer : TypeNode :=
  .union [payment "card" ⟨"holder", .reference "Person", false⟩,
    payment "transfer" ⟨"account", .primitive "string", false⟩]

/-- The validator of payments accepts the payments and no other value. -/
theorem cardOrTransfer_keeps_meaning :
    cardOrTransfer.IsRegular ∧
    ((ofNode cardOrTransfer).IsWritten ↔ ∀ value ∈ cardOrTransfer.literals, value.IsFinite) ∧
      ∀ meaning value, (ofNode cardOrTransfer).Accepts meaning value ↔
        cardOrTransfer.Holds meaning value := by
  have primitives : ∀ first second : String,
      (TypeNode.union [.primitive first, .primitive second]).IsRegular := by
    intro first second
    refine .union ?_ (fun key found => nomatch found)
    simp [TypeNode.IsRegular.primitive]
  have eachPayment : ∀ kind (detail : Property), detail.type.IsRegular →
      detail.name ∉ ["kind", "amount", "note"] → (payment kind detail).IsRegular := by
    intro kind detail regular other
    refine .object none ?_ ?_
    · simp_all [eq_comm]
    · simp [TypeNode.IsRegular.literal, primitives, regular]
  have distinct : ¬ (payment "card" ⟨"holder", .reference "Person", false⟩).SharesLiteral "kind"
      (payment "transfer" ⟨"account", .primitive "string", false⟩) := by
    rintro ⟨literal, other, found, foundOther, value, denotes, denotesOther⟩
    cases found
    cases foundOther
    rw [Scalar.denotes_text_iff] at denotes denotesOther
    exact absurd (Value.text.inj (denotes.symm.trans denotesOther)) (by decide)
  have regular : cardOrTransfer.IsRegular := by
    refine .union ?_ ?_
    · simp only [List.forall_mem_cons, List.not_mem_nil, false_imp_iff, implies_true, and_true]
      exact ⟨eachPayment _ _ (.reference _) (by decide), eachPayment _ _ (.primitive _) (by decide)⟩
    · intro key found
      obtain rfl : "kind" = key := Option.some.inj found
      refine ⟨?_, by simpa using distinct⟩
      intro member listed property there
      simp only [List.mem_cons, List.not_mem_nil, or_false] at listed
      rcases listed with rfl | rfl <;> cases there <;> rfl
  exact ⟨regular, ofNode_keeps_meaning regular⟩

/-- The literal of an infinite number is written as a name. -/
theorem infinite_literal_not_written :
    (TypeNode.literal (.float (.infinity false))).IsRegular ∧
    (ofNode (.literal (.float (.infinity false)))).code = "z.literal(inf)" ∧
    ¬ (ofNode (.literal (.float (.infinity false)))).IsWritten := by
  refine ⟨.literal _, rfl, fun written => ?_⟩
  have finite := isWritten_ofNode_iff.mp written
  exact finite _ List.mem_cons_self

end Validator

end TypeScaffold
