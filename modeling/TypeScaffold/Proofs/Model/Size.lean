import TypeScaffold.Proofs.Initial.Parts

/-!
# Sizes of types

A type has one node for itself and those of its parts. The object with the merged properties of
several objects is no part of any of them, but it has at most their nodes, less one for each of them.
-/

namespace TypeScaffold

namespace TypeNode

mutual

/-- The number of nodes of a type. -/
def size : TypeNode → Nat
  | .array element => 1 + sizeOfOptional element
  | .tuple members | .union members | .intersection members => 1 + sizeOfAll members
  | .object properties _ => 1 + sizeOfProperties properties
  | .record key value => 1 + sizeOfOptional key + sizeOfOptional value
  | .primitive _ | .literal _ | .reference _ | .enumeration _ _ | .function | .unknown _ => 1
termination_by structural node => node

/-- The number of nodes of a type, if it is known. -/
def sizeOfOptional : Option TypeNode → Nat
  | none => 0
  | some node => size node
termination_by structural node => node

/-- The number of nodes of types. -/
def sizeOfAll : List TypeNode → Nat
  | [] => 0
  | node :: rest => size node + sizeOfAll rest
termination_by structural nodes => nodes

def sizeOfProperties : List Property → Nat
  | [] => 0
  | ⟨_, type, _⟩ :: rest => size type + sizeOfProperties rest
termination_by structural properties => properties

end

theorem size_le_sizeOfAll {node : TypeNode} :
    ∀ {nodes : List TypeNode}, node ∈ nodes → node.size ≤ sizeOfAll nodes
  | first :: rest, member => by
      rw [sizeOfAll]
      rcases List.mem_cons.mp member with rfl | later
      · exact Nat.le_add_right _ _
      · exact Nat.le_add_left_of_le (size_le_sizeOfAll later)

theorem size_le_sizeOfProperties {property : Property} :
    ∀ {properties : List Property}, property ∈ properties →
      property.type.size ≤ sizeOfProperties properties
  | first :: rest, member => by
      rw [sizeOfProperties]
      rcases List.mem_cons.mp member with rfl | later
      · exact Nat.le_add_right _ _
      · exact Nat.le_add_left_of_le (size_le_sizeOfProperties later)

theorem sizeOfProperties_append (first second : List Property) :
    sizeOfProperties (first ++ second) = sizeOfProperties first + sizeOfProperties second := by
  induction first with
  | nil => exact (Nat.zero_add _).symm
  | cons property rest inductionHypothesis =>
      rw [List.cons_append, sizeOfProperties, sizeOfProperties, inductionHypothesis, Nat.add_assoc]

/-! ## Merged properties -/

/-- Putting a property adds at most its nodes: those of a replaced one no longer count. -/
theorem sizeOfProperties_put_le (key : String) (property : Property) :
    ∀ entries : Keyed Property,
      sizeOfProperties ((entries.put key property).map Prod.snd) ≤
        property.type.size + sizeOfProperties (entries.map Prod.snd)
  | [] => Nat.le_refl _
  | (name, old) :: rest => by
      have later := sizeOfProperties_put_le key property rest
      rw [Keyed.put]
      split <;> simp only [List.map_cons, sizeOfProperties] <;> omega

theorem sizeOfProperties_putAll_le :
    ∀ (pairs : List (String × Property)) (entries : Keyed Property),
      sizeOfProperties ((entries.putAll pairs).map Prod.snd) ≤
        sizeOfProperties (pairs.map Prod.snd) + sizeOfProperties (entries.map Prod.snd)
  | [], entries => Nat.le_add_left _ _
  | (key, property) :: rest, entries => by
      have first := sizeOfProperties_put_le key property entries
      have later := sizeOfProperties_putAll_le rest (entries.put key property)
      rw [Keyed.putAll]
      simp only [List.map_cons, sizeOfProperties]
      omega

/-- Merging drops the nodes of properties whose name comes again. -/
theorem sizeOfProperties_mergedProperties_le (members : List TypeNode) :
    sizeOfProperties (mergedProperties members) ≤
      sizeOfProperties (members.flatMap (fun member => member.properties?.getD [])) := by
  have bound := sizeOfProperties_putAll_le
    ((members.flatMap (fun member => member.properties?.getD [])).map
      (fun property => (property.name, property))) []
  have properties (listed : List Property) :
      (listed.map (fun property => (property.name, property))).map Prod.snd = listed := by
    rw [List.map_map]
    exact List.map_id listed
  rw [properties] at bound
  exact bound

/-- The objects have the nodes of their properties, and one more each. -/
theorem sizeOfAll_of_objects {members : List TypeNode} (objects : members.all isObject = true) :
    sizeOfAll members = members.length +
      sizeOfProperties (members.flatMap (fun member => member.properties?.getD [])) := by
  induction members with
  | nil => rfl
  | cons member rest inductionHypothesis =>
      rw [List.all_cons, Bool.and_eq_true] at objects
      have later := inductionHypothesis objects.2
      cases member with
      | object properties label =>
          rw [sizeOfAll, later, size, List.flatMap_cons, sizeOfProperties_append, List.length_cons]
          simp only [properties?, Option.getD_some]
          omega
      | _ => cases objects.1

/-- The merged object of an intersection is smaller than the intersection. -/
theorem size_mergedProperties_lt {members : List TypeNode} (filled : members ≠ [])
    (objects : members.all isObject = true) :
    (TypeNode.object (mergedProperties members) none).size <
      (TypeNode.intersection members).size := by
  have merging := sizeOfProperties_mergedProperties_le members
  have positive := List.length_pos_of_ne_nil filled
  rw [size, size, sizeOfAll_of_objects objects]
  omega

end TypeNode

end TypeScaffold
