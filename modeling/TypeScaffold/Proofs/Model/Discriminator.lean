import TypeScaffold.Proofs.Model.Choice

/-!
# The discriminator of objects

Objects have a discriminator just when some name stands for a literal in each of them, where the first
property of a name is the one that counts. The literals of the first object are tried in order. What
the other objects say is a yes or no for each name, so that neither their order nor, as long as their
names are distinct, that of their properties matters.
-/

namespace TypeScaffold

namespace TypeNode

/-- The type is some literal. -/
def IsLiteral (node : TypeNode) : Prop :=
  ∃ value, node = .literal value

/-- The first property of the name is there and is a literal. -/
def StartsLiteral (key : String) (properties : List Property) : Prop :=
  ∃ before property after, properties = before ++ property :: after ∧ property.name = key ∧
    property.type.IsLiteral ∧ ∀ earlier ∈ before, earlier.name ≠ key

/-- The type is an object whose first property of the name is a literal. -/
def HasLiteralAt (key : String) (node : TypeNode) : Prop :=
  ∃ properties name, node = .object properties name ∧ StartsLiteral key properties

/-- The property is a literal, and each of the types has a literal under its name. -/
def IsCommonLiteral (members : List TypeNode) (property : Property) : Prop :=
  property.type.IsLiteral ∧ ∀ member ∈ members, member.HasLiteralAt property.name

/-- The types are the same, or objects with the same distinct properties in some order. -/
inductive Reordered : TypeNode → TypeNode → Prop where
  | same (node : TypeNode) : Reordered node node
  | object {properties others : List Property} (name : Option String)
      (distinct : (properties.map PropertyOf.name).Nodup) (permuted : properties.Perm others) :
      Reordered (.object properties name) (.object others name)

theorem isLiteral_iff {node : TypeNode} : node.isLiteral = true ↔ node.IsLiteral := by
  cases node <;> simp [isLiteral, IsLiteral]

/-! ## One object -/

theorem hasLiteral_iff {key : String} {properties : List Property} :
    hasLiteral key properties = true ↔ StartsLiteral key properties := by
  unfold hasLiteral
  constructor
  · intro literal
    split at literal
    · rename_i property found
      obtain ⟨named, before, after, split, others⟩ := List.find?_eq_some_iff_append.mp found
      refine ⟨before, property, after, split, eq_of_beq named, isLiteral_iff.mp literal, ?_⟩
      intro earlier there same
      simpa [same] using others earlier there
    · cases literal
  · rintro ⟨before, property, after, split, named, literal, others⟩
    have found : properties.find? (fun property => property.name == key) = some property :=
      List.find?_eq_some_iff_append.mpr
        ⟨beq_iff_eq.mpr named, before, after, split, fun earlier there => by
          simpa using others earlier there⟩
    rw [found]
    exact isLiteral_iff.mpr literal

/-- If no name comes twice, a literal of the name anywhere is the first property of the name. -/
theorem startsLiteral_iff_of_nodup {key : String} {properties : List Property}
    (distinct : (properties.map PropertyOf.name).Nodup) :
    StartsLiteral key properties ↔
      ∃ property ∈ properties, property.name = key ∧ property.type.IsLiteral := by
  constructor
  · rintro ⟨before, property, after, rfl, named, literal, -⟩
    exact ⟨property, List.mem_append_right _ List.mem_cons_self, named, literal⟩
  · rintro ⟨property, member, rfl, literal⟩
    obtain ⟨before, after, rfl⟩ := List.append_of_mem member
    refine ⟨before, property, after, rfl, rfl, literal, fun earlier there same => ?_⟩
    rw [List.map_append, List.nodup_append] at distinct
    exact distinct.2.2 _ (List.mem_map_of_mem there) _ List.mem_cons_self same

theorem Reordered.hasLiteralAt_iff {key : String} {first second : TypeNode}
    (reordered : Reordered first second) : first.HasLiteralAt key ↔ second.HasLiteralAt key := by
  have object : ∀ properties name,
      (TypeNode.object properties name).HasLiteralAt key ↔ StartsLiteral key properties := by
    simp [HasLiteralAt]
  cases reordered with
  | same => rfl
  | object name distinct permuted =>
      rw [object, object, startsLiteral_iff_of_nodup distinct,
        startsLiteral_iff_of_nodup ((permuted.map _).nodup_iff.mp distinct)]
      simp only [permuted.mem_iff]

/-! ## Several objects -/

theorem mapM_properties?_of_objects {key : String} {members : List TypeNode}
    (literals : ∀ member ∈ members, member.HasLiteralAt key) :
    ∃ objects, members.mapM properties? = some objects := by
  induction members with
  | nil => exact ⟨[], rfl⟩
  | cons member rest inductionHypothesis =>
      obtain ⟨here, others⟩ := List.forall_mem_cons.mp literals
      obtain ⟨properties, name, rfl, -⟩ := here
      obtain ⟨objects, found⟩ := inductionHypothesis others
      refine ⟨properties :: objects, ?_⟩
      rw [List.mapM_cons, found]
      rfl

theorem all_hasLiteral_iff {key : String} {members : List TypeNode} {objects : List (List Property)}
    (found : members.mapM properties? = some objects) :
    objects.all (hasLiteral key) = true ↔ ∀ member ∈ members, member.HasLiteralAt key := by
  rw [mapM_eq_some_iff] at found
  induction found with
  | nil => simp
  | cons here _ inductionHypothesis =>
      obtain ⟨name, rfl⟩ := properties?_eq_some_iff.mp here
      rw [List.all_cons, Bool.and_eq_true, inductionHypothesis, hasLiteral_iff, List.forall_mem_cons]
      simp [HasLiteralAt]

/-- Trying the literals of the first object in order finds the first that all have. -/
theorem discriminator?_of_objects {members : List TypeNode} {key : String} {first : List Property}
    {others : List (List Property)} (objects : members.mapM properties? = some (first :: others)) :
    discriminator? members = some key ↔ ∃ before property after, first = before ++ property :: after ∧
      property.name = key ∧ IsCommonLiteral members property ∧
      ∀ earlier ∈ before, ¬ IsCommonLiteral members earlier := by
  have common : ∀ property : Property,
      (property.type.isLiteral && (first :: others).all (hasLiteral property.name)) = true ↔
        IsCommonLiteral members property := by
    intro property
    rw [Bool.and_eq_true, isLiteral_iff, all_hasLiteral_iff objects]
    rfl
  rw [discriminator?, objects]
  simp only [Option.map_eq_some_iff, List.find?_eq_some_iff_append, common, Bool.not_eq_true',
    ← Bool.not_eq_true]
  constructor
  · rintro ⟨property, ⟨holds, before, after, split, fails⟩, named⟩
    exact ⟨before, property, after, split, named, holds, fails⟩
  · rintro ⟨before, property, after, split, named, holds, fails⟩
    exact ⟨property, ⟨holds, before, after, split, fails⟩, named⟩

/-- The discriminator is the name of the first literal of the first object that is a literal in all. -/
theorem discriminator?_eq_some_iff {members : List TypeNode} {key : String} :
    discriminator? members = some key ↔
      ∃ before property after name others,
        members = .object (before ++ property :: after) name :: others ∧ property.name = key ∧
        IsCommonLiteral members property ∧ ∀ earlier ∈ before, ¬ IsCommonLiteral members earlier := by
  constructor
  · intro found
    have told := found
    unfold discriminator? at told
    split at told
    · rename_i first others objects
      obtain ⟨before, property, after, rfl, named, common, fails⟩ :=
        (discriminator?_of_objects objects).mp found
      obtain ⟨node, rest, object, -, split⟩ :=
        List.forall₂_cons_right_iff.mp (mapM_eq_some_iff.mp objects)
      obtain ⟨name, rfl⟩ := properties?_eq_some_iff.mp object
      exact ⟨before, property, after, name, rest, split, named, common, fails⟩
    · cases told
  · rintro ⟨before, property, after, name, rest, split, named, common, fails⟩
    obtain ⟨objects, found⟩ := mapM_properties?_of_objects common.2
    obtain ⟨first, others, object, -, rfl⟩ :=
      List.forall₂_cons_left_iff.mp (mapM_eq_some_iff.mp (split ▸ found))
    obtain rfl : before ++ property :: after = first := Option.some.inj object
    exact (discriminator?_of_objects found).mpr ⟨before, property, after, rfl, named, common, fails⟩

/-- Some literal of the first object comes first among those that all have. -/
theorem exists_first_isCommonLiteral {members : List TypeNode} {property : Property}
    {properties : List Property} (member : property ∈ properties)
    (common : IsCommonLiteral members property) :
    ∃ before chosen after, properties = before ++ chosen :: after ∧
      IsCommonLiteral members chosen ∧ ∀ earlier ∈ before, ¬ IsCommonLiteral members earlier := by
  induction properties with
  | nil => cases member
  | cons here rest inductionHypothesis =>
      by_cases first : IsCommonLiteral members here
      · exact ⟨[], here, rest, rfl, first, fun _ there => nomatch there⟩
      · have later : property ∈ rest :=
          (List.mem_cons.mp member).resolve_left (fun same => first (same ▸ common))
        obtain ⟨before, chosen, after, rfl, holds, fails⟩ := inductionHypothesis later
        exact ⟨here :: before, chosen, after, rfl, holds, List.forall_mem_cons.mpr ⟨first, fails⟩⟩

theorem isSome_discriminator?_iff {members : List TypeNode} :
    (discriminator? members).isSome = true ↔
      members ≠ [] ∧ (∀ member ∈ members, member.isObject = true) ∧
      ∃ first name others, members = .object first name :: others ∧
        ∃ property ∈ first, IsCommonLiteral members property := by
  rw [Option.isSome_iff_exists]
  constructor
  · rintro ⟨key, found⟩
    obtain ⟨before, property, after, name, others, split, -, common, -⟩ :=
      discriminator?_eq_some_iff.mp found
    refine ⟨split ▸ List.cons_ne_nil _ others, fun member there => ?_, before ++ property :: after,
      name, others, split, property, List.mem_append_right before List.mem_cons_self, common⟩
    obtain ⟨properties, own, rfl, -⟩ := common.2 member there
    rfl
  · rintro ⟨-, -, first, name, others, split, property, there, common⟩
    obtain ⟨before, chosen, after, rfl, holds, fails⟩ := exists_first_isCommonLiteral there common
    exact ⟨chosen.name, discriminator?_eq_some_iff.mpr
      ⟨before, chosen, after, name, others, split, rfl, holds, fails⟩⟩

/-! ## Reordering -/

theorem isCommonLiteral_iff_of_reordered {first : TypeNode} {others permuted reordered : List TypeNode}
    (permutation : others.Perm permuted) (each : List.Forall₂ Reordered permuted reordered)
    {property : Property} : IsCommonLiteral (first :: reordered) property ↔
      IsCommonLiteral (first :: others) property := by
  have everywhere : (∀ member ∈ reordered, member.HasLiteralAt property.name) ↔
      ∀ member ∈ permuted, member.HasLiteralAt property.name := by
    clear permutation
    induction each with
    | nil => rfl
    | cons here _ inductionHypothesis =>
        rw [List.forall_mem_cons, List.forall_mem_cons, inductionHypothesis, here.hasLiteralAt_iff]
  simp only [IsCommonLiteral, List.forall_mem_cons, everywhere, permutation.mem_iff]

/-- The order of the objects after the first and that of their distinct properties do not matter. -/
theorem discriminator?_of_reordered (first : TypeNode) {others permuted reordered : List TypeNode}
    (permutation : others.Perm permuted) (each : List.Forall₂ Reordered permuted reordered) :
    discriminator? (first :: reordered) = discriminator? (first :: others) := by
  apply Option.ext
  intro key
  rw [discriminator?_eq_some_iff, discriminator?_eq_some_iff]
  simp [isCommonLiteral_iff_of_reordered permutation each]

/-- The discriminator is the first literal of the first object that is a literal in all objects. There
is one just when the types are objects, at least one, and such a literal exists. It does not depend on
the order of the other objects or on that of their properties, where these are distinct. -/
theorem first_common_literal_discriminates (members : List TypeNode) :
    (∀ key, discriminator? members = some key ↔
      ∃ before property after name others,
        members = .object (before ++ property :: after) name :: others ∧ property.name = key ∧
        IsCommonLiteral members property ∧ ∀ earlier ∈ before, ¬ IsCommonLiteral members earlier) ∧
    ((discriminator? members).isSome = true ↔
      members ≠ [] ∧ (∀ member ∈ members, member.isObject = true) ∧
      ∃ first name others, members = .object first name :: others ∧
        ∃ property ∈ first, IsCommonLiteral members property) ∧
    ∀ first others permuted reordered, members = first :: others → others.Perm permuted →
      List.Forall₂ Reordered permuted reordered →
      discriminator? (first :: reordered) = discriminator? members := by
  refine ⟨fun key => discriminator?_eq_some_iff, isSome_discriminator?_iff, ?_⟩
  rintro first others permuted reordered rfl permutation each
  exact discriminator?_of_reordered first permutation each

/-- A literal behind another property of its name is passed over. -/
example : discriminator?
    [.object [⟨"tag", .primitive "string", false⟩, ⟨"tag", .literal (.int 1), false⟩,
        ⟨"kind", .literal (.text "leaf"), false⟩] none,
      .object [⟨"kind", .literal (.text "fork"), false⟩, ⟨"tag", .literal (.int 2), false⟩] none] =
    some "kind" := by
  decide

end TypeNode

end TypeScaffold
