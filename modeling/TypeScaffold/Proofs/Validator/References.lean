import TypeScaffold.Proofs.Model.References
import TypeScaffold.Proofs.Model.Resolve
import TypeScaffold.Validator.OfType

/-!
# References in validators

A validator names declarations by their validators. It names none that the type it was made for does
not refer to.
-/

namespace TypeScaffold

namespace Validator

mutual

/-- The names whose validators a validator mentions, in the order of its text. -/
def references : Validator → List String
  | .reference name => [name]
  | .array inner | .optional inner | .nullable inner => references inner
  | .tuple members | .union members | .discriminated _ members => referencesOfAll members
  | .both left right | .record left right => references left ++ references right
  | .object fields => referencesOfFields fields
  | .builtin _ | .literal _ | .choice _ | .gap _ | .unspecified => []
termination_by structural validator => validator

/-- The names whose validators the listed ones mention. -/
def referencesOfAll : List Validator → List String
  | [] => []
  | validator :: rest => references validator ++ referencesOfAll rest
termination_by structural validators => validators

/-- The names whose validators fields mention. -/
def referencesOfFields : List (String × Validator) → List String
  | [] => []
  | (_, validator) :: rest => references validator ++ referencesOfFields rest
termination_by structural fields => fields

end

/-! ## Parts of unions and intersections -/

theorem references_subset_referencesOfAll {validator : Validator} :
    ∀ {validators : List Validator}, validator ∈ validators →
      validator.references ⊆ referencesOfAll validators
  | _ :: rest, member => by
      intro name mentioned
      rw [referencesOfAll, List.mem_append]
      rcases List.mem_cons.mp member with rfl | later
      · exact Or.inl mentioned
      · exact Or.inr (references_subset_referencesOfAll later mentioned)

@[simp]
theorem references_asOptional (validator : Validator) :
    validator.asOptional.references = validator.references := by
  cases validator <;> rfl

theorem references_foldl_both :
    ∀ (validators : List Validator) (first : Validator),
      (validators.foldl .both first).references =
        first.references ++ referencesOfAll validators
  | [], first => (List.append_nil first.references).symm
  | second :: rest, first => by
      rw [List.foldl_cons, references_foldl_both rest, references, referencesOfAll,
        List.append_assoc]

theorem references_all (validators : List Validator) :
    (all validators).references = referencesOfAll validators := by
  cases validators with
  | nil => rfl
  | cons first rest =>
      rw [all, references_foldl_both, referencesOfAll]

/-- The validator of a union mentions nothing but what those of its members mention. -/
theorem references_ofUnion_subset (members : List TypeNode) (validators : List Validator) :
    (ofUnion members validators).references ⊆ referencesOfAll validators := by
  unfold ofUnion
  split
  · exact List.nil_subset _
  · split
    · rename_i core found
      rw [references_asOptional]
      exact references_subset_referencesOfAll (mem_of_companion? found)
    · split
      · rename_i core found
        rw [references]
        unfold TypeNode.nullableCore? at found
        split at found
        · cases found
        · exact references_subset_referencesOfAll (mem_of_companion? found)
      · split
        · exact List.nil_subset _
        · split <;> exact List.Subset.refl _

theorem references_ofPrimitive (name : String) : (ofPrimitive name).references = [] := by
  unfold ofPrimitive
  split <;> rfl

theorem references_ofRawText (rawText : Option String) : (ofRawText rawText).references = [] := by
  unfold ofRawText
  split <;> rfl

theorem referencesOfAll_literals {α : Type} (value : α → Scalar) (items : List α) :
    referencesOfAll (items.map (fun item => .literal (value item))) = [] := by
  induction items with
  | nil => rfl
  | cons item rest inductionHypothesis =>
      rw [List.map_cons, referencesOfAll, inductionHypothesis]
      rfl

theorem references_ofEnumeration (members : List EnumMember) :
    (ofEnumeration members).references = [] := by
  unfold ofEnumeration
  split
  · rfl
  · split
    · rfl
    · exact referencesOfAll_literals (fun member : EnumMember => member.value.scalar) members

/-! ## Validators of types -/

mutual

/-- The validator of a type mentions only names that the type refers to. -/
theorem references_ofNode_subset : ∀ node : TypeNode, (ofNode node).references ⊆ node.references
  | .primitive name => by
      rw [ofNode, references_ofPrimitive]
      exact List.nil_subset _
  | .literal _ => List.nil_subset _
  | .array none => List.nil_subset _
  | .array (some element) => references_ofNode_subset element
  | .tuple elements => referencesOfAll_ofNodes_subset elements
  | .union members => by
      intro name mentioned
      exact referencesOfAll_ofNodes_subset members
        (references_ofUnion_subset members (ofNodes members) mentioned)
  | .intersection members => by
      rw [ofNode, references_all]
      exact referencesOfAll_ofNodes_subset members
  | .object properties _ => referencesOfFields_ofProperties_subset properties
  | .reference _ => List.Subset.refl _
  | .enumeration members _ => by
      rw [ofNode, references_ofEnumeration]
      exact List.nil_subset _
  | .record (some key) (some value) => by
      rw [ofNode, references, TypeNode.references]
      exact List.append_subset.mpr
        ⟨List.subset_append_of_subset_left _ (references_ofNode_subset key),
          List.subset_append_of_subset_right _ (references_ofNode_subset value)⟩
  | .record none _ => List.nil_subset _
  | .record (some _) none => List.nil_subset _
  | .function => List.nil_subset _
  | .unknown rawText => by
      rw [ofNode, references_ofRawText]
      exact List.nil_subset _

theorem referencesOfAll_ofNodes_subset :
    ∀ nodes : List TypeNode, referencesOfAll (ofNodes nodes) ⊆ TypeNode.referencesOfAll nodes
  | [] => List.nil_subset _
  | node :: rest => by
      rw [ofNodes, referencesOfAll, TypeNode.referencesOfAll]
      exact List.append_subset.mpr
        ⟨List.subset_append_of_subset_left _ (references_ofNode_subset node),
          List.subset_append_of_subset_right _ (referencesOfAll_ofNodes_subset rest)⟩

theorem referencesOfFields_ofProperties_subset :
    ∀ properties : List Property,
      referencesOfFields (ofProperties properties) ⊆ TypeNode.referencesOfProperties properties
  | [] => List.nil_subset _
  | ⟨name, type, marked⟩ :: rest => by
      have field : (if marked then (ofNode type).asOptional else ofNode type).references =
          (ofNode type).references := by
        cases marked <;> simp
      rw [ofProperties, referencesOfFields, field, TypeNode.referencesOfProperties]
      exact List.append_subset.mpr
        ⟨List.subset_append_of_subset_left _ (references_ofNode_subset type),
          List.subset_append_of_subset_right _ (referencesOfFields_ofProperties_subset rest)⟩

end

end Validator

end TypeScaffold
