import TypeScaffold.Proofs.Model.Choice
import TypeScaffold.Proofs.Model.Literals
import TypeScaffold.Proofs.Text.Indent
import TypeScaffold.Proofs.Validator.Optional

/-!
# Literals in validators

A validator writes the literals of the type that it was made for, each once and in their order.
-/

namespace TypeScaffold

namespace Validator

mutual

/-- The values that a validator writes as literals, in the order of its text. The key by which objects
are told apart is none of them. -/
def literals : Validator → List Scalar
  | .literal value => [value]
  | .choice options => options.map .text
  | .array inner | .optional inner | .nullable inner => literals inner
  | .tuple members | .union members | .discriminated _ members => literalsOfAll members
  | .both left right | .record left right => literals left ++ literals right
  | .object fields => literalsOfFields fields
  | .builtin _ | .reference _ | .gap _ | .unspecified => []
termination_by structural validator => validator

/-- The literals of validators in order. -/
def literalsOfAll : List Validator → List Scalar
  | [] => []
  | validator :: rest => literals validator ++ literalsOfAll rest
termination_by structural validators => validators

/-- The literals of fields in order. -/
def literalsOfFields : List (String × Validator) → List Scalar
  | [] => []
  | (_, validator) :: rest => literals validator ++ literalsOfFields rest
termination_by structural fields => fields

end

/-! ## Parts -/

@[simp]
theorem literals_asOptional (validator : Validator) :
    validator.asOptional.literals = validator.literals := by
  cases validator <;> rfl

theorem literals_foldl_both :
    ∀ (validators : List Validator) (first : Validator),
      (validators.foldl .both first).literals = first.literals ++ literalsOfAll validators
  | [], first => (List.append_nil first.literals).symm
  | second :: rest, first => by
      rw [List.foldl_cons, literals_foldl_both rest, literals, literalsOfAll, List.append_assoc]

theorem literals_all (validators : List Validator) :
    (all validators).literals = literalsOfAll validators := by
  cases validators with
  | nil => rfl
  | cons first rest => rw [all, literals_foldl_both, literalsOfAll]

theorem literals_ofPrimitive (name : String) : (ofPrimitive name).literals = [] := by
  unfold ofPrimitive
  split <;> rfl

theorem literals_ofRawText (rawText : Option String) : (ofRawText rawText).literals = [] := by
  unfold ofRawText
  split <;> rfl

theorem literalsOfAll_map_literal {α : Type} (value : α → Scalar) (items : List α) :
    literalsOfAll (items.map (fun item => .literal (value item))) = items.map value := by
  induction items with
  | nil => rfl
  | cons item rest inductionHypothesis =>
      rw [List.map_cons, literalsOfAll, inductionHypothesis]
      rfl

theorem map_text_of_enumeration {members : List EnumMember} {options : List String}
    (found : members.mapM (fun member => member.value.text?) = some options) :
    options.map Scalar.text = members.map (fun member => member.value.scalar) := by
  rw [mapM_eq_some_iff] at found
  induction found with
  | nil => rfl
  | @cons member option _ _ here _ inductionHypothesis =>
      rw [List.map_cons, List.map_cons, inductionHypothesis]
      cases value : member.value <;> rw [value] at here <;> cases here
      rfl

theorem literals_ofEnumeration (members : List EnumMember) :
    (ofEnumeration members).literals = members.map (fun member => member.value.scalar) := by
  unfold ofEnumeration
  split
  · rfl
  · split
    · rename_i options found
      exact map_text_of_enumeration found
    · exact literalsOfAll_map_literal (fun member : EnumMember => member.value.scalar) members

theorem literalsOfAll_of_textChoices? {members : List TypeNode} {options : List String}
    (found : TypeNode.textChoices? members = some options) :
    TypeNode.literalsOfAll members = options.map .text := by
  rw [TypeNode.eq_map_of_textChoices? found]
  clear found
  induction options with
  | nil => rfl
  | cons option rest inductionHypothesis =>
      rw [List.map_cons, TypeNode.literalsOfAll, inductionHypothesis]
      rfl

/-- What stands beside a primitive has all the literals. -/
theorem literals_of_companion? {name : String} {members : List TypeNode} {core : Validator}
    (found : companion? (TypeNode.isPrimitive name) members (ofNodes members) = some core) :
    core.literals = literalsOfAll (ofNodes members) := by
  rw [ofNodes_eq_map] at found
  obtain ⟨missing, node, placed, passes, _, rfl⟩ := exists_of_companion?_map found
  obtain rfl := TypeNode.eq_of_isPrimitive passes
  rcases placed with rfl | rfl
  · simp only [ofNodes, literalsOfAll, ofNode, literals_ofPrimitive, List.nil_append,
      List.append_nil]
  · simp only [ofNodes, literalsOfAll, ofNode, literals_ofPrimitive, List.append_nil]

theorem literals_ofUnion {members : List TypeNode}
    (each : literalsOfAll (ofNodes members) = TypeNode.literalsOfAll members) :
    (ofUnion members (ofNodes members)).literals = TypeNode.literalsOfAll members := by
  rw [← each]
  unfold ofUnion
  split
  · rfl
  · split
    · rename_i found
      rw [literals_asOptional]
      exact literals_of_companion? found
    · split
      · rename_i found
        rw [literals]
        unfold TypeNode.nullableCore? at found
        split at found
        · cases found
        · exact literals_of_companion? found
      · split
        · rename_i found
          rw [literals, each, literalsOfAll_of_textChoices? found]
        · split <;> rfl

/-! ## Validators of types -/

mutual

/-- A validator has the literals of the type that it was made for. -/
theorem literals_ofNode : ∀ node : TypeNode, (ofNode node).literals = node.literals
  | .primitive name => literals_ofPrimitive name
  | .literal _ => rfl
  | .array none => rfl
  | .array (some element) => literals_ofNode element
  | .tuple elements => literalsOfAll_ofNodes elements
  | .union members => literals_ofUnion (literalsOfAll_ofNodes members)
  | .intersection members => by
      rw [ofNode, literals_all]
      exact literalsOfAll_ofNodes members
  | .object properties _ => literalsOfFields_ofProperties properties
  | .reference _ => rfl
  | .enumeration members _ => literals_ofEnumeration members
  | .record (some key) (some value) => by
      rw [ofNode, literals, literals_ofNode key, literals_ofNode value, TypeNode.literals]
  | .record none _ => rfl
  | .record (some _) none => rfl
  | .function => rfl
  | .unknown rawText => literals_ofRawText rawText

theorem literalsOfAll_ofNodes :
    ∀ nodes : List TypeNode, literalsOfAll (ofNodes nodes) = TypeNode.literalsOfAll nodes
  | [] => rfl
  | node :: rest => by
      rw [ofNodes, literalsOfAll, literals_ofNode node, literalsOfAll_ofNodes rest,
        TypeNode.literalsOfAll]

theorem literalsOfFields_ofProperties :
    ∀ properties : List Property,
      literalsOfFields (ofProperties properties) = TypeNode.literalsOfProperties properties
  | [] => rfl
  | ⟨name, type, marked⟩ :: rest => by
      have field : (if marked then (ofNode type).asOptional else ofNode type).literals =
          type.literals := by
        rw [← literals_ofNode type]
        cases marked <;> simp
      rw [ofProperties, literalsOfFields, field, literalsOfFields_ofProperties rest,
        TypeNode.literalsOfProperties]

end

/-! ## Texts -/

open Text (Contains contains_around contains_intercalate contains_unlines contains_hang)

mutual

/-- Every literal of a validator stands in its text. -/
theorem contains_code_of_mem_literals {value : Scalar} :
    ∀ {validator : Validator}, value ∈ validator.literals → Contains validator.code value.code
  | .literal other, member => by
      obtain rfl := List.mem_singleton.mp member
      exact contains_around "z.literal(" value.code ")"
  | .choice options, member => by
      obtain ⟨option, listed, rfl⟩ := List.mem_map.mp member
      exact (contains_around "z.enum([" _ "])").trans
        (contains_intercalate (List.mem_map_of_mem listed))
  | .array element, member =>
      (contains_around "z.array(" element.code ")").trans (contains_code_of_mem_literals member)
  | .tuple elements, member => by
      obtain ⟨part, listed, inside⟩ := exists_code_of_mem_literalsOfAll member
      exact ((contains_around "z.tuple([" _ "])").trans (contains_intercalate listed)).trans inside
  | .union members, member => by
      obtain ⟨part, listed, inside⟩ := exists_code_of_mem_literalsOfAll member
      exact ((contains_around "z.union([" _ "])").trans (contains_intercalate listed)).trans inside
  | .discriminated key members, member => by
      obtain ⟨part, listed, inside⟩ := exists_code_of_mem_literalsOfAll member
      exact ((contains_around _ _ "])").trans (contains_intercalate listed)).trans inside
  | .both left right, member => by
      rcases List.mem_append.mp member with inLeft | inRight
      · have front := contains_around "" left.code (".and(" ++ right.code ++ ")")
        rw [String.empty_append, ← String.append_assoc, ← String.append_assoc] at front
        exact front.trans (contains_code_of_mem_literals inLeft)
      · exact (contains_around (left.code ++ ".and(") right.code ")").trans
          (contains_code_of_mem_literals inRight)
  | .object (field :: fields), member => by
      obtain ⟨line, listed, inside⟩ := exists_fieldCode_of_mem_literalsOfFields member
      have block := contains_around (r"z.object({" ++ "\n")
        (Text.unlines (fieldCodes (field :: fields))) ("\n" ++ r"})")
      rw [← String.append_assoc] at block
      exact (block.trans (contains_unlines listed)).trans inside
  | .record key content, member => by
      rcases List.mem_append.mp member with inKey | inContent
      · have front := contains_around "z.record(" key.code (", " ++ content.code ++ ")")
        rw [← String.append_assoc, ← String.append_assoc] at front
        exact front.trans (contains_code_of_mem_literals inKey)
      · exact (contains_around ("z.record(" ++ key.code ++ ", ") content.code ")").trans
          (contains_code_of_mem_literals inContent)
  | .optional inner, member => by
      have front := contains_around "" inner.code optionalSuffix
      rw [String.empty_append] at front
      exact front.trans (contains_code_of_mem_literals member)
  | .nullable inner, member => by
      have front := contains_around "" inner.code ".nullable()"
      rw [String.empty_append] at front
      exact front.trans (contains_code_of_mem_literals member)

theorem exists_code_of_mem_literalsOfAll {value : Scalar} :
    ∀ {validators : List Validator}, value ∈ literalsOfAll validators →
      ∃ part ∈ codes validators, Contains part value.code
  | validator :: rest, member => by
      rw [codes]
      rcases List.mem_append.mp member with here | later
      · exact ⟨validator.code, List.mem_cons_self, contains_code_of_mem_literals here⟩
      · obtain ⟨part, listed, inside⟩ := exists_code_of_mem_literalsOfAll later
        exact ⟨part, List.mem_cons_of_mem _ listed, inside⟩

theorem exists_fieldCode_of_mem_literalsOfFields {value : Scalar} :
    ∀ {fields : List (String × Validator)}, value ∈ literalsOfFields fields →
      ∃ line ∈ fieldCodes fields, Contains line value.code
  | (name, validator) :: rest, member => by
      rw [fieldCodes]
      rcases List.mem_append.mp member with here | later
      · refine ⟨_, List.mem_cons_self, contains_hang value.newline_notMem_code ?_⟩
        exact (contains_around ("  " ++ name ++ ": ") validator.code ",").trans
          (contains_code_of_mem_literals here)
      · obtain ⟨line, listed, inside⟩ := exists_fieldCode_of_mem_literalsOfFields later
        exact ⟨line, List.mem_cons_of_mem _ listed, inside⟩

end

/-- What stands in the text for each literal of the validator is a literal. -/
def IsWritten (validator : Validator) : Prop :=
  ∀ value ∈ validator.literals, Contains validator.code value.code ∧ Text.IsLiteral value.code

/-- The validator of a type is written just when the literals of the type are finite. -/
theorem isWritten_ofNode_iff {node : TypeNode} :
    (ofNode node).IsWritten ↔ ∀ value ∈ node.literals, value.IsFinite := by
  rw [IsWritten, literals_ofNode]
  refine forall₂_congr (fun value member => ?_)
  rw [← literals_ofNode] at member
  rw [and_iff_right (contains_code_of_mem_literals member), Scalar.isLiteral_code_iff]

end Validator

end TypeScaffold
