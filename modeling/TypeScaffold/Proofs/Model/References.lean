import TypeScaffold.Proofs.Model.Arena

/-!
# References

The names that a type refers to, wherever they stand in it, and the promise that every declaration
lists those of its type among its dependencies.
-/

namespace TypeScaffold

namespace TypeNode

mutual

/-- The names that a type refers to, at any depth. -/
def references : TypeNode → List String
  | .reference name => [name]
  | .array element => referencesOfOptional element
  | .tuple members | .union members | .intersection members => referencesOfAll members
  | .object properties _ => referencesOfProperties properties
  | .record key value => referencesOfOptional key ++ referencesOfOptional value
  | .primitive _ | .literal _ | .enumeration _ _ | .function | .unknown _ => []
termination_by structural node => node

/-- The names that a type refers to, if it is known. -/
def referencesOfOptional : Option TypeNode → List String
  | none => []
  | some node => references node
termination_by structural node => node

/-- The names that types refer to. -/
def referencesOfAll : List TypeNode → List String
  | [] => []
  | node :: rest => references node ++ referencesOfAll rest
termination_by structural nodes => nodes

def referencesOfProperties : List Property → List String
  | [] => []
  | ⟨_, type, _⟩ :: rest => references type ++ referencesOfProperties rest
termination_by structural properties => properties

end

theorem mem_referencesOfProperties {name : String} {property : Property} :
    ∀ {properties : List Property}, property ∈ properties → name ∈ property.type.references →
      name ∈ referencesOfProperties properties
  | _ :: rest, member, refers => by
      rw [referencesOfProperties, List.mem_append]
      rcases List.mem_cons.mp member with rfl | later
      · exact Or.inl refers
      · exact Or.inr (mem_referencesOfProperties later refers)

end TypeNode

/-- Every declaration lists the names that its type refers to among its dependencies. -/
def Model.ListsReferences (model : Model) : Prop :=
  ∀ declaration ∈ model.declarations, declaration.type.references ⊆ declaration.dependencies

instance (model : Model) : Decidable model.ListsReferences :=
  inferInstanceAs (Decidable (∀ declaration ∈ model.declarations,
    ∀ name ∈ declaration.type.references, name ∈ declaration.dependencies))

theorem Model.ListsReferences.dependsOn {model : Model} (listed : model.ListsReferences)
    {name reference : String} {declaration : Declaration}
    (found : model.arena.get? name = some declaration)
    (refers : reference ∈ declaration.type.references) :
    model.graph.DependsOn name reference :=
  Model.dependsOn_iff.mpr
    ⟨declaration, found, listed declaration (Model.mem_of_get?_arena found).1 refers⟩

end TypeScaffold
