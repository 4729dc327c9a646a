import Mathlib.Logic.Relation
import TypeScaffold.Proofs.Initial.Inhabitants
import TypeScaffold.Proofs.Initial.Parts

/-!
# Initial values of objects that hold together

Objects that hold together start as one object, whose entries stand for the names of their properties in
the order in which the names first come, each with the value of the last property of its name. Merging
properties is associative, so merging some of the objects beforehand changes nothing.
-/

namespace TypeScaffold

namespace TypeNode

/-! ## Merged properties -/

/-- The properties of objects, one object after the other. -/
def joinedProperties (members : List TypeNode) : List Property :=
  members.flatMap (fun member => member.properties?.getD [])

/-- The property is in the list, and no later one has its name. -/
def IsLastNamed (property : Property) (properties : List Property) : Prop :=
  ∃ before after, properties = before ++ property :: after ∧
    ∀ later ∈ after, later.name ≠ property.name

/-- The properties have the names of those that are joined, each once and in the order in which they
first come, and each is the last of its name. -/
def AreMerged (properties joined : List Property) : Prop :=
  properties.map PropertyOf.name = (joined.map PropertyOf.name).eraseDups ∧
    ∀ property ∈ properties, IsLastNamed property joined

/-- Some consecutive objects are merged into one and the others stay. -/
inductive MergesRun : List TypeNode → List TypeNode → Prop where
  | run (before group after : List TypeNode) {properties : List Property} (name : Option String)
      (merged : AreMerged properties (joinedProperties group)) :
      MergesRun (before ++ group ++ after) (before ++ .object properties name :: after)

/-- The properties with their names in front. -/
def byName (properties : List Property) : List (String × Property) :=
  properties.map (fun property => (property.name, property))

theorem keys_byName (properties : List Property) :
    Keyed.keys (byName properties) = properties.map PropertyOf.name := by
  rw [Keyed.keys, byName, List.map_map]
  rfl

theorem byName_append (first second : List Property) :
    byName (first ++ second) = byName first ++ byName second :=
  List.map_append

theorem isLast_byName_iff {key : String} {property : Property} {properties : List Property} :
    Keyed.IsLast key property (byName properties) ↔
      key = property.name ∧ IsLastNamed property properties := by
  constructor
  · rintro ⟨before, after, split, absent⟩
    obtain ⟨front, rest, rfl, rfl, others⟩ := List.map_eq_append_iff.mp split
    obtain ⟨same, back, rfl, equal, rfl⟩ := List.map_eq_cons_iff.mp others
    obtain ⟨rfl, rfl⟩ := Prod.mk.inj equal
    refine ⟨rfl, front, back, rfl, fun later there named => absent ?_⟩
    rw [← named]
    exact (keys_byName back).symm ▸ List.mem_map_of_mem there
  · rintro ⟨rfl, before, after, rfl, others⟩
    refine ⟨byName before, byName after, byName_append before (property :: after), fun there => ?_⟩
    rw [keys_byName] at there
    obtain ⟨later, member, named⟩ := List.mem_map.mp there
    exact others later member named

/-- What is found under a name is the last property of the name. -/
theorem get?_ofList_byName_iff {key : String} {property : Property} {properties : List Property} :
    Keyed.get? key (Keyed.ofList (byName properties)) = some property ↔
      key = property.name ∧ IsLastNamed property properties := by
  rw [Keyed.get?_ofList_eq_some_iff, isLast_byName_iff]

/-- The table of the properties by name has each merged property under its own name. -/
theorem ofList_byName (members : List TypeNode) :
    Keyed.ofList (byName (joinedProperties members)) = byName (mergedProperties members) := by
  change _ = ((Keyed.ofList (byName (joinedProperties members))).map Prod.snd).map _
  rw [List.map_map]
  conv => lhs; rw [← List.map_id (Keyed.ofList _)]
  apply List.map_congr_left
  intro entry member
  have found := (Keyed.get?_eq_some_iff (Keyed.nodup_keys_ofList _)).mpr member
  exact Prod.ext (get?_ofList_byName_iff.mp found).1 rfl

theorem areMerged_mergedProperties (members : List TypeNode) :
    AreMerged (mergedProperties members) (joinedProperties members) := by
  constructor
  · rw [← keys_byName, ← ofList_byName, Keyed.keys_ofList, keys_byName]
  · intro property member
    have listed : (property.name, property) ∈ Keyed.ofList (byName (joinedProperties members)) := by
      rw [ofList_byName]
      exact List.mem_map_of_mem (f := fun property => (property.name, property)) member
    have found := (Keyed.get?_eq_some_iff (Keyed.nodup_keys_ofList _)).mpr listed
    exact (get?_ofList_byName_iff.mp found).2

/-- Properties are merged in one way only. -/
theorem AreMerged.eq_mergedProperties {properties : List Property} {members : List TypeNode}
    (merged : AreMerged properties (joinedProperties members)) :
    properties = mergedProperties members := by
  have found : ∀ {listed : List Property}, AreMerged listed (joinedProperties members) →
      listed.map some = (((joinedProperties members).map PropertyOf.name).eraseDups).map
        (fun key => Keyed.get? key (Keyed.ofList (byName (joinedProperties members)))) := by
    intro listed areMerged
    rw [← areMerged.1, List.map_map]
    apply List.map_congr_left
    intro property member
    exact (get?_ofList_byName_iff.mpr ⟨rfl, areMerged.2 property member⟩).symm
  exact (List.map_inj_right (fun _ _ => Option.some.inj)).mp
    ((found merged).trans (found (areMerged_mergedProperties members)).symm)

/-- Merging some consecutive objects beforehand leaves the merged properties as they are. -/
theorem mergedProperties_of_mergesRun {members others : List TypeNode}
    (step : MergesRun members others) : mergedProperties others = mergedProperties members := by
  obtain ⟨before, group, after, name, merged⟩ := step
  obtain rfl := merged.eq_mergedProperties
  have joined : byName (joinedProperties (before ++ .object (mergedProperties group) name :: after)) =
      byName (joinedProperties before) ++ Keyed.ofList (byName (joinedProperties group)) ++
        byName (joinedProperties after) := by
    rw [joinedProperties, List.flatMap_append, List.flatMap_cons, byName_append, byName_append,
      ofList_byName, ← List.append_assoc]
    rfl
  have apart : byName (joinedProperties (before ++ group ++ after)) =
      byName (joinedProperties before) ++ byName (joinedProperties group) ++
        byName (joinedProperties after) := by
    rw [joinedProperties, List.flatMap_append, List.flatMap_append, byName_append, byName_append]
    rfl
  change (Keyed.ofList (byName (joinedProperties _))).map Prod.snd =
    (Keyed.ofList (byName (joinedProperties _))).map Prod.snd
  rw [joined, apart, Keyed.ofList_append_ofList_append]

theorem isObject_of_mergesRun {members others : List TypeNode} (step : MergesRun members others)
    (objects : members.all isObject = true) : others.all isObject = true := by
  obtain ⟨before, group, after, name, -⟩ := step
  rw [List.all_append, List.all_append, Bool.and_eq_true, Bool.and_eq_true] at objects
  rw [List.all_append, List.all_cons, objects.1.1, objects.2]
  rfl

end TypeNode

namespace Initial

theorem entryCodes_ofProperties (reference : String → Initial) (properties : List Property) :
    entryCodes (ofProperties reference properties) =
      properties.map (fun property => property.name ++ ": " ++
        if property.isOptional then "undefined" else (ofNode reference property.type).code) := by
  induction properties with
  | nil => rfl
  | cons property rest inductionHypothesis =>
      rw [ofProperties_eq_map, List.map_cons, ← ofProperties_eq_map, entryCodes,
        inductionHypothesis, List.map_cons]
      simp only [ofProperty]
      split <;> rfl

/-- Objects start alike together however some of them were merged beforehand. -/
theorem ofNode_of_mergesRun (reference : String → Initial) {members others : List TypeNode}
    (objects : members.all TypeNode.isObject = true)
    (steps : Relation.ReflTransGen TypeNode.MergesRun members others) :
    others.all TypeNode.isObject = true ∧
      ofNode reference (.intersection others) = ofNode reference (.intersection members) := by
  induction steps with
  | refl => exact ⟨objects, rfl⟩
  | tail _ step inductionHypothesis =>
      obtain ⟨objectsBefore, same⟩ := inductionHypothesis
      have objectsAfter := TypeNode.isObject_of_mergesRun step objectsBefore
      refine ⟨objectsAfter, ?_⟩
      rw [ofNode_of_objects reference objectsAfter, TypeNode.mergedProperties_of_mergesRun step,
        ← ofNode_of_objects reference objectsBefore, same]

/-- Objects that hold together start, among any declarations and wherever they stand, as one object:
its names are those of all properties, each once and where it first comes, and each is given the
value of the last property of the name. It stays the same when consecutive objects are merged into
one beforehand, again and again. -/
theorem objects_start_merged (arena : Keyed Declaration) (unvisited : List String)
    {members : List TypeNode} (objects : ∀ member ∈ members, member.isObject = true) :
    (∃ properties, TypeNode.AreMerged properties (TypeNode.joinedProperties members) ∧
      (ofNode (ofReference arena unvisited) (.intersection members)).code =
        objectExpression (properties.map (fun property => property.name ++ ": " ++
          if property.isOptional then "undefined"
          else (ofNode (ofReference arena unvisited) property.type).code))) ∧
    ∀ others, Relation.ReflTransGen TypeNode.MergesRun members others →
      ofNode (ofReference arena unvisited) (.intersection others) =
        ofNode (ofReference arena unvisited) (.intersection members) := by
  have allObjects := List.all_eq_true.mpr objects
  refine ⟨⟨TypeNode.mergedProperties members, TypeNode.areMerged_mergedProperties members, ?_⟩,
    fun others steps => (ofNode_of_mergesRun _ allObjects steps).2⟩
  rw [ofNode_of_objects _ allObjects, ofNode, code_object, entryCodes_ofProperties]

/-- What a task needs, when it is due and how it is noted. -/
def taskLayers : List TypeNode :=
  [.object [⟨"id", .primitive "number", false⟩, ⟨"note", .primitive "string", false⟩] (some "Task"),
    .object [⟨"due", .primitive "Date", false⟩, ⟨"id", .primitive "number", false⟩] none,
    .object [⟨"note", .primitive "string", true⟩, ⟨"id", .primitive "string", false⟩] none]

/-- When a task is due and how it is noted, in one. -/
def dueNote : TypeNode :=
  .object [⟨"due", .primitive "Date", false⟩, ⟨"id", .primitive "string", false⟩,
    ⟨"note", .primitive "string", true⟩] none

/-- The last `id` and the optional `note` hold in the places of the first ones, also when the last two
layers are merged beforehand. -/
theorem taskLayers_start_merged :
    (∀ member ∈ taskLayers, member.isObject = true) ∧
      ofNode (ofReference [] []) (.intersection [taskLayers[0], dueNote]) =
        ofNode (ofReference [] []) (.intersection taskLayers) ∧
      (ofNode (ofReference [] []) (.intersection taskLayers)).code =
        r"{ id: '', note: undefined, due: new Date() }" := by
  have objects : ∀ member ∈ taskLayers, member.isObject = true := by decide
  have merged := TypeNode.areMerged_mergedProperties [taskLayers[1], taskLayers[2]]
  obtain ⟨-, stays⟩ := objects_start_merged [] [] objects
  exact ⟨objects, stays _ (.single (.run [taskLayers[0]] _ [] none merged)), by decide⟩

end Initial

end TypeScaffold
