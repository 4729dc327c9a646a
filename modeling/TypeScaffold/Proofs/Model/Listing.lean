import TypeScaffold.Context
import TypeScaffold.Proofs.Graph.Listing
import TypeScaffold.Proofs.Model.Arena

/-!
# Models that list dependencies in another order

Two models may differ only in how each declaration lists its dependencies: in another order, or some
of them several times. Listing the dependencies of all declarations as sets makes such models equal,
and it leaves the recursive names, the needed names and the order as they are.
-/

namespace TypeScaffold

/-! ## Relisted declarations -/

/-- Both declarations say the same, and depend on the same names, however these are listed. -/
structure Declaration.Relists (declaration other : Declaration) : Prop where
  name : declaration.name = other.name
  type : declaration.type = other.type
  exported : declaration.exported = other.exported
  dependencies : ∀ name, name ∈ declaration.dependencies ↔ name ∈ other.dependencies

/-- Both models have the same declarations in the same order and the same errors, however
dependencies are listed. -/
structure Model.Relists (model other : Model) : Prop where
  declarations : List.Forall₂ Declaration.Relists model.declarations other.declarations
  errors : model.errors = other.errors

/-- The declaration with its dependencies listed as a set. -/
def Declaration.canonical (declaration : Declaration) : Declaration :=
  { declaration with dependencies := NameSet.ofList declaration.dependencies }

/-- The model with all dependencies listed as sets. -/
def Model.canonical (model : Model) : Model :=
  model.mapDeclarations Declaration.canonical

theorem Declaration.Relists.canonical_eq {declaration other : Declaration}
    (relists : declaration.Relists other) : declaration.canonical = other.canonical := by
  rw [canonical, canonical, relists.name, relists.type, relists.exported,
    NameSet.ofList_eq_of_mem_iff relists.dependencies]

theorem Model.Relists.canonical_eq {model other : Model} (relists : model.Relists other) :
    model.canonical = other.canonical := by
  have declarations : model.declarations.map Declaration.canonical =
      other.declarations.map Declaration.canonical := by
    rw [← List.forall₂_eq_eq_eq, List.forall₂_map_left_iff, List.forall₂_map_right_iff]
    exact relists.declarations.imp (fun _ _ alike => alike.canonical_eq)
  rw [canonical, canonical, mapDeclarations, mapDeclarations, declarations, relists.errors]

/-! ## Order and recursion -/

namespace Model

theorem arena_canonical (model : Model) :
    model.canonical.arena = Keyed.mapEntries (fun _ => Declaration.canonical) model.arena :=
  arena_mapDeclarations Declaration.canonical (fun _ => rfl) model

theorem graph_canonical_relists (model : Model) :
    model.canonical.graph.Relists model.graph where
  keys := by
    rw [graph_eq_mapEntries, graph_eq_mapEntries, arena_canonical]
    simp only [Keyed.keys_mapEntries]
  dependsOn_iff := by
    intro name dependency
    rw [dependsOn_iff, dependsOn_iff, arena_canonical, Keyed.get?_mapEntries]
    cases model.arena.get? name with
    | none => simp
    | some declaration => simp [Declaration.canonical]

/-- Relisted models have relisted graphs. -/
theorem Relists.graph {model other : Model} (relists : model.Relists other) :
    model.graph.Relists other.graph := by
  have ofCanonical := other.graph_canonical_relists
  rw [← relists.canonical_eq] at ofCanonical
  exact model.graph_canonical_relists.symm.trans ofCanonical

theorem neededNames_canonical (model : Model) : model.canonical.neededNames = model.neededNames := by
  apply NameSet.eq_of_mem_iff
  intro name
  change name ∈ model.canonical.neededNames ↔ name ∈ model.neededNames
  rw [mem_neededNames, mem_neededNames]
  simp only [Graph.reaches_congr model.graph_canonical_relists.dependsOn_iff]
  simp only [canonical, mapDeclarations, List.mem_map, exists_exists_and_eq_and,
    Declaration.canonical, NameSet.mem_ofList]

end Model

/-- The context with all dependencies listed as sets. -/
def Context.canonical (context : Context) : Context :=
  { context with arena := Keyed.mapEntries (fun _ => Declaration.canonical) context.arena }

theorem Context.ofModel_canonical (model : Model) :
    ofModel model.canonical = (ofModel model).canonical := by
  rw [ofModel, model.graph_canonical_relists.recursiveNames_eq, model.neededNames_canonical,
    model.arena_canonical]
  rfl

end TypeScaffold
