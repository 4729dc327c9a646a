import TypeScaffold.Initial
import TypeScaffold.Proofs.Keyed

/-!
# Parts of initial values

The value of a tuple, of an object and of a union is made of the values of their parts, each of which
depends on the type of its part alone. Objects that hold together have the value of one object with
the properties of all.
-/

namespace TypeScaffold

/-- The properties of objects that hold together. Of several with one name the last holds, in the place
of the first. -/
def TypeNode.mergedProperties (members : List TypeNode) : List Property :=
  (Keyed.ofList ((members.flatMap (fun member => member.properties?.getD [])).map
    (fun property => (property.name, property)))).map Prod.snd

namespace Initial

variable (reference : String → Initial)

theorem ofNodes_eq_map (nodes : List TypeNode) :
    ofNodes reference nodes = nodes.map (ofNode reference) := by
  induction nodes with
  | nil => rfl
  | cons node rest inductionHypothesis => rw [ofNodes, inductionHypothesis, List.map_cons]

/-- The entry of a property in the value of an object. -/
def ofProperty (property : Property) : String × Initial :=
  (property.name, if property.isOptional then .absent else ofNode reference property.type)

theorem ofProperties_eq_map (properties : List Property) :
    ofProperties reference properties = properties.map (ofProperty reference) := by
  induction properties with
  | nil => rfl
  | cons property rest inductionHypothesis =>
      rw [ofProperties, inductionHypothesis, List.map_cons]
      rfl

theorem ofFirstPresent_eq_elim (members : List TypeNode) :
    ofFirstPresent reference members =
      (members.find? (fun member => !member.isEmptyValue)).elim .absent (ofNode reference) := by
  induction members with
  | nil => rfl
  | cons member rest inductionHypothesis =>
      rw [ofFirstPresent, List.find?_cons]
      cases member.isEmptyValue with
      | true => exact inductionHypothesis
      | false => rfl

theorem ofObjects_eq_ofProperties (members : List TypeNode) :
    ofObjects reference members =
      ofProperties reference (members.flatMap (fun member => member.properties?.getD [])) := by
  induction members with
  | nil => rfl
  | cons member rest inductionHypothesis =>
      cases member with
      | object properties name =>
          rw [ofObjects, inductionHypothesis, List.flatMap_cons, ofProperties_eq_map,
            ofProperties_eq_map, ofProperties_eq_map, List.map_append]
          rfl
      | _ => exact inductionHypothesis

/-- Merging the entries of properties is merging the properties. -/
theorem ofList_ofProperties (properties : List Property) :
    Keyed.ofList (ofProperties reference properties) =
      ofProperties reference
        ((Keyed.ofList (properties.map (fun property => (property.name, property)))).map
          Prod.snd) := by
  let pairs := properties.map (fun property => (property.name, property))
  have entries : ofProperties reference properties =
      Keyed.mapEntries (fun _ property => (ofProperty reference property).2) pairs := by
    rw [ofProperties_eq_map, Keyed.mapEntries, List.map_map]
    rfl
  rw [entries, Keyed.ofList_mapEntries, ofProperties_eq_map, List.map_map]
  apply List.map_congr_left
  intro entry member
  obtain ⟨property, _, rfl⟩ := List.mem_map.mp (Keyed.mem_of_mem_ofList member)
  rfl

/-- The value of objects that hold together is that of the object with their merged properties. -/
theorem ofNode_of_objects {members : List TypeNode}
    (objects : members.all TypeNode.isObject = true) :
    ofNode reference (.intersection members) =
      ofNode reference (.object (TypeNode.mergedProperties members) none) := by
  rw [ofNode, ofNode, if_pos objects, ofObjects_eq_ofProperties, ofList_ofProperties]
  rfl

end Initial

end TypeScaffold
