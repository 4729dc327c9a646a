import TypeScaffold.Initial
import TypeScaffold.Proofs.Model.References

/-!
# Constants in initial values

An initial value mentions the constants of stores. The references of a type enter its initial value
in the same way whatever they stand for, so the type *consults* fixed names, all of which it refers
to, and the constants of its value are those of the values of these names.
-/

namespace TypeScaffold

namespace Initial

mutual

/-- The names whose constants an initial value mentions, in the order of its text. -/
def constants : Initial → List String
  | .constant name => [name]
  | .list items => constantsOfAll items
  | .object entries => constantsOfEntries entries
  | .absent | .builtin _ | .literal _ => []
termination_by structural value => value

/-- The names whose constants the listed values mention. -/
def constantsOfAll : List Initial → List String
  | [] => []
  | value :: rest => constants value ++ constantsOfAll rest
termination_by structural values => values

/-- The names whose constants entries mention. -/
def constantsOfEntries : List (String × Initial) → List String
  | [] => []
  | (_, value) :: rest => constants value ++ constantsOfEntries rest
termination_by structural entries => entries

end

mutual

/-- An initial value with each constant replaced by what is given for its name. -/
def replace (reference : String → Initial) : Initial → Initial
  | .constant name => reference name
  | .list items => .list (replaceAll reference items)
  | .object entries => .object (replaceEntries reference entries)
  | .absent => .absent
  | .builtin code => .builtin code
  | .literal value => .literal value
termination_by structural value => value

/-- Values with each constant replaced. -/
def replaceAll (reference : String → Initial) : List Initial → List Initial
  | [] => []
  | value :: rest => replace reference value :: replaceAll reference rest
termination_by structural values => values

/-- Entries with each constant replaced in their values. -/
def replaceEntries (reference : String → Initial) :
    List (String × Initial) → List (String × Initial)
  | [] => []
  | (name, value) :: rest => (name, replace reference value) :: replaceEntries reference rest
termination_by structural entries => entries

end

theorem constantsOfEntries_eq_flatMap (entries : List (String × Initial)) :
    constantsOfEntries entries = entries.flatMap (fun entry => entry.2.constants) := by
  induction entries with
  | nil => rfl
  | cons entry rest inductionHypothesis =>
      rw [List.flatMap_cons, ← inductionHypothesis]
      rfl

theorem replaceEntries_eq_mapEntries
    (reference : String → Initial) (entries : List (String × Initial)) :
    replaceEntries reference entries =
      Keyed.mapEntries (fun _ value => value.replace reference) entries := by
  induction entries with
  | nil => rfl
  | cons entry rest inductionHypothesis =>
      rw [replaceEntries, inductionHypothesis]
      rfl

theorem replaceEntries_append
    (reference : String → Initial) (first second : List (String × Initial)) :
    replaceEntries reference (first ++ second) =
      replaceEntries reference first ++ replaceEntries reference second := by
  simp only [replaceEntries_eq_mapEntries, Keyed.mapEntries, List.map_append]

/-! ## Replacing constants -/

mutual

/-- The constants after replacing are those of what was put in. -/
theorem constants_replace (reference : String → Initial) :
    ∀ value : Initial, (value.replace reference).constants =
      value.constants.flatMap (fun name => (reference name).constants)
  | .constant name => by
      rw [replace, constants, List.flatMap_singleton]
  | .list items => constantsOfAll_replaceAll reference items
  | .object entries => constantsOfEntries_replaceEntries reference entries
  | .absent => rfl
  | .builtin _ => rfl
  | .literal _ => rfl

theorem constantsOfAll_replaceAll (reference : String → Initial) :
    ∀ values : List Initial, constantsOfAll (replaceAll reference values) =
      (constantsOfAll values).flatMap (fun name => (reference name).constants)
  | [] => rfl
  | value :: rest => by
      rw [replaceAll, constantsOfAll, constantsOfAll, List.flatMap_append,
        constants_replace reference value, constantsOfAll_replaceAll reference rest]

theorem constantsOfEntries_replaceEntries (reference : String → Initial) :
    ∀ entries : List (String × Initial),
      constantsOfEntries (replaceEntries reference entries) =
        (constantsOfEntries entries).flatMap (fun name => (reference name).constants)
  | [] => rfl
  | (_, value) :: rest => by
      rw [replaceEntries, constantsOfEntries, constantsOfEntries, List.flatMap_append,
        constants_replace reference value, constantsOfEntries_replaceEntries reference rest]

end

theorem replace_ofPrimitive (reference : String → Initial) (name : String) :
    (ofPrimitive name).replace reference = ofPrimitive name := by
  unfold ofPrimitive
  split <;> rfl

mutual

/-- The value of a type is that with each reference left as a constant, where then the constants are
replaced. -/
theorem ofNode_eq_replace (reference : String → Initial) :
    ∀ node : TypeNode, ofNode reference node = (ofNode .constant node).replace reference
  | .primitive name => by
      rw [ofNode, ofNode, replace_ofPrimitive]
  | .literal _ => rfl
  | .enumeration [] _ => rfl
  | .enumeration (_ :: _) _ => rfl
  | .array _ => rfl
  | .tuple elements => by
      rw [ofNode, ofNode, replace, ofNodes_eq_replaceAll reference elements]
  | .record _ _ => rfl
  | .object properties _ => by
      rw [ofNode, ofNode, replace, ofProperties_eq_replaceEntries reference properties]
  | .union members => ofFirstPresent_eq_replace reference members
  | .intersection members => by
      rw [ofNode, ofNode]
      split
      · rw [replace, ofObjects_eq_replaceEntries reference members,
          replaceEntries_eq_mapEntries, replaceEntries_eq_mapEntries, Keyed.ofList_mapEntries]
      · rfl
  | .reference _ => rfl
  | .function => rfl
  | .unknown _ => rfl

theorem ofNodes_eq_replaceAll (reference : String → Initial) :
    ∀ nodes : List TypeNode,
      ofNodes reference nodes = replaceAll reference (ofNodes .constant nodes)
  | [] => rfl
  | node :: rest => by
      rw [ofNodes, ofNodes, replaceAll, ofNode_eq_replace reference node,
        ofNodes_eq_replaceAll reference rest]

theorem ofFirstPresent_eq_replace (reference : String → Initial) :
    ∀ nodes : List TypeNode,
      ofFirstPresent reference nodes = (ofFirstPresent .constant nodes).replace reference
  | [] => rfl
  | node :: rest => by
      rw [ofFirstPresent, ofFirstPresent]
      split
      · exact ofFirstPresent_eq_replace reference rest
      · exact ofNode_eq_replace reference node

theorem ofProperties_eq_replaceEntries (reference : String → Initial) :
    ∀ properties : List Property,
      ofProperties reference properties =
        replaceEntries reference (ofProperties .constant properties)
  | [] => rfl
  | ⟨name, type, optional⟩ :: rest => by
      rw [ofProperties, ofProperties, replaceEntries,
        ofProperties_eq_replaceEntries reference rest]
      split
      · rfl
      · rw [ofNode_eq_replace reference type]

theorem ofObjects_eq_replaceEntries (reference : String → Initial) :
    ∀ nodes : List TypeNode,
      ofObjects reference nodes = replaceEntries reference (ofObjects .constant nodes)
  | [] => rfl
  | node :: rest => by
      have others := ofObjects_eq_replaceEntries reference rest
      cases node with
      | object properties name =>
          change ofProperties reference properties ++ ofObjects reference rest =
            replaceEntries reference
              (ofProperties .constant properties ++ ofObjects .constant rest)
          rw [replaceEntries_append, ofProperties_eq_replaceEntries reference properties, others]
      | _ => exact others

end

/-! ## Consulted names -/

theorem constantsOfEntries_ofList_subset (pairs : List (String × Initial)) :
    constantsOfEntries (Keyed.ofList pairs) ⊆ constantsOfEntries pairs := by
  intro name mentioned
  rw [constantsOfEntries_eq_flatMap, List.mem_flatMap] at mentioned ⊢
  obtain ⟨entry, member, there⟩ := mentioned
  exact ⟨entry, Keyed.mem_of_mem_ofList member, there⟩

theorem constantsOfEntries_append (first second : List (String × Initial)) :
    constantsOfEntries (first ++ second) =
      constantsOfEntries first ++ constantsOfEntries second := by
  simp only [constantsOfEntries_eq_flatMap, List.flatMap_append]

mutual

/-- The value of a type mentions only names that the type refers to. -/
theorem constants_ofNode_subset :
    ∀ node : TypeNode, (ofNode .constant node).constants ⊆ node.references
  | .primitive name => by
      rw [ofNode]
      unfold ofPrimitive
      split <;> exact List.nil_subset _
  | .literal _ => List.nil_subset _
  | .enumeration [] _ => List.nil_subset _
  | .enumeration (_ :: _) _ => List.nil_subset _
  | .array _ => List.nil_subset _
  | .tuple elements => constantsOfAll_ofNodes_subset elements
  | .record _ _ => List.nil_subset _
  | .object properties _ => constantsOfEntries_ofProperties_subset properties
  | .union members => constants_ofFirstPresent_subset members
  | .intersection members => by
      rw [ofNode]
      split
      · intro name mentioned
        exact constantsOfEntries_ofObjects_subset members
          (constantsOfEntries_ofList_subset _ mentioned)
      · exact List.nil_subset _
  | .reference _ => List.Subset.refl _
  | .function => List.nil_subset _
  | .unknown _ => List.nil_subset _

theorem constantsOfAll_ofNodes_subset :
    ∀ nodes : List TypeNode,
      constantsOfAll (ofNodes .constant nodes) ⊆ TypeNode.referencesOfAll nodes
  | [] => List.nil_subset _
  | node :: rest => by
      rw [ofNodes, constantsOfAll, TypeNode.referencesOfAll]
      exact List.append_subset.mpr
        ⟨List.subset_append_of_subset_left _ (constants_ofNode_subset node),
          List.subset_append_of_subset_right _ (constantsOfAll_ofNodes_subset rest)⟩

theorem constants_ofFirstPresent_subset :
    ∀ nodes : List TypeNode,
      (ofFirstPresent .constant nodes).constants ⊆ TypeNode.referencesOfAll nodes
  | [] => List.nil_subset _
  | node :: rest => by
      rw [ofFirstPresent, TypeNode.referencesOfAll]
      split
      · exact List.subset_append_of_subset_right _ (constants_ofFirstPresent_subset rest)
      · exact List.subset_append_of_subset_left _ (constants_ofNode_subset node)

theorem constantsOfEntries_ofProperties_subset :
    ∀ properties : List Property,
      constantsOfEntries (ofProperties .constant properties) ⊆
        TypeNode.referencesOfProperties properties
  | [] => List.nil_subset _
  | ⟨name, type, optional⟩ :: rest => by
      rw [ofProperties, constantsOfEntries, TypeNode.referencesOfProperties]
      apply List.append_subset.mpr
      constructor
      · split
        · exact List.nil_subset _
        · exact List.subset_append_of_subset_left _ (constants_ofNode_subset type)
      · exact List.subset_append_of_subset_right _ (constantsOfEntries_ofProperties_subset rest)

theorem constantsOfEntries_ofObjects_subset :
    ∀ nodes : List TypeNode,
      constantsOfEntries (ofObjects .constant nodes) ⊆ TypeNode.referencesOfAll nodes
  | [] => List.nil_subset _
  | node :: rest => by
      have others := constantsOfEntries_ofObjects_subset rest
      cases node with
      | object properties name =>
          change constantsOfEntries
              (ofProperties .constant properties ++ ofObjects .constant rest) ⊆
            TypeNode.referencesOfProperties properties ++ TypeNode.referencesOfAll rest
          rw [constantsOfEntries_append]
          exact List.append_subset.mpr
            ⟨List.subset_append_of_subset_left _
                (constantsOfEntries_ofProperties_subset properties),
              List.subset_append_of_subset_right _ others⟩
      | _ => exact List.subset_append_of_subset_right _ others

end

end Initial

/-- The names on whose initial values that of the type rests. -/
def TypeNode.consulted (node : TypeNode) : List String :=
  (Initial.ofNode .constant node).constants

theorem TypeNode.consulted_subset_references (node : TypeNode) :
    node.consulted ⊆ node.references :=
  Initial.constants_ofNode_subset node

/-- The constants of a type's value are those of the values of the names that it consults. -/
theorem Initial.constants_ofNode (reference : String → Initial) (node : TypeNode) :
    (ofNode reference node).constants =
      node.consulted.flatMap (fun name => (reference name).constants) := by
  rw [ofNode_eq_replace, constants_replace]
  rfl

end TypeScaffold
