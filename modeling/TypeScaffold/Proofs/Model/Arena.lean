import TypeScaffold.Proofs.Graph.Ordering

/-!
# Declarations by name and in order

The graph of a model has the keys of its arena, so every question about its paths depends on the
declarations by name only. Every model has an order: each declared name once, with the declaration
that counts, and no declaration before one that it leads to without circles.
-/

namespace TypeScaffold.Model

/-! ## The arena and the graph -/

theorem nodup_keys_arena (model : Model) : model.arena.keys.Nodup :=
  Keyed.nodup_keys_ofList _

theorem mem_of_get?_arena {model : Model} {name : String} {declaration : Declaration}
    (found : model.arena.get? name = some declaration) :
    declaration ∈ model.declarations ∧ declaration.name = name := by
  have pair := Keyed.mem_of_mem_ofList (Keyed.mem_of_get? found)
  obtain ⟨source, member, equal⟩ := List.mem_map.mp pair
  cases equal
  exact ⟨member, rfl⟩

/-- Every declaration stands under its own name. -/
theorem named_of_mem_arena {model : Model} {entry : String × Declaration}
    (member : entry ∈ model.arena) : (entry.2.name, entry.2) = entry := by
  have found := (Keyed.get?_eq_some_iff model.nodup_keys_arena).mpr member
  exact Prod.ext (mem_of_get?_arena found).2 rfl

theorem graph_eq_mapEntries (model : Model) :
    model.graph =
      Keyed.mapEntries (fun _ declaration => declaration.dependencies) model.arena := by
  rw [arena, ← Keyed.ofList_mapEntries, Keyed.mapEntries, List.map_map]
  rfl

theorem get?_graph (model : Model) (name : String) :
    Keyed.get? name model.graph = (model.arena.get? name).map Declaration.dependencies := by
  rw [graph_eq_mapEntries, Keyed.get?_mapEntries]

theorem dependsOn_iff {model : Model} {name dependency : String} :
    model.graph.DependsOn name dependency ↔
      ∃ declaration, model.arena.get? name = some declaration ∧
        dependency ∈ declaration.dependencies := by
  rw [Graph.DependsOn, Graph.dependencies, get?_graph]
  cases model.arena.get? name with
  | none => simp
  | some declaration => simp

theorem has_iff {model : Model} {name : String} :
    model.graph.has name = true ↔ ∃ declaration, model.arena.get? name = some declaration := by
  rw [Graph.has_iff, graph_eq_mapEntries, Keyed.keys_mapEntries]
  constructor
  · intro member
    cases found : model.arena.get? name with
    | none => exact absurd member (Keyed.get?_eq_none_iff.mp found)
    | some declaration => exact ⟨declaration, rfl⟩
  · intro declared
    obtain ⟨declaration, found⟩ := declared
    exact List.mem_map_of_mem (Keyed.mem_of_get? found)

/-! ## The order -/

private theorem map_name_filterMap (model : Model) :
    ∀ {names : List String},
      (∀ name ∈ names, ∃ declaration, model.arena.get? name = some declaration) →
      (names.filterMap model.arena.get?).map Declaration.name = names
  | [], _ => rfl
  | name :: rest, known => by
      obtain ⟨declaration, found⟩ := known name List.mem_cons_self
      have others := map_name_filterMap model
        (fun member there => known member (List.mem_cons_of_mem name there))
      simp only [List.filterMap_cons, found, List.map_cons, others, (mem_of_get?_arena found).2]

theorem mem_of_order {model : Model} {names : List String}
    (sorted : model.graph.withoutCircles.order = .ok names) {name : String} :
    name ∈ names ↔ ∃ declaration, model.arena.get? name = some declaration := by
  rw [Graph.mem_of_order sorted, Graph.has_iff, Graph.keys_withoutCircles, ← Graph.has_iff, has_iff]

/-- A model has an order: the declarations that count, each after those of the names that its name
leads to without circles. -/
theorem exists_ordered (model : Model) :
    ∃ names declarations, model.graph.withoutCircles.order = .ok names ∧
      model.ordered = .ok declarations ∧
      declarations.map Declaration.name = names ∧
      ∀ declaration, declaration ∈ declarations ↔
        model.arena.get? declaration.name = some declaration := by
  obtain ⟨names, sorted⟩ :=
    Graph.exists_order (Graph.not_leadsTo_self_withoutCircles model.graph)
  refine ⟨names, names.filterMap model.arena.get?, sorted, ?_, ?_, ?_⟩
  · rw [ordered, sorted]
    rfl
  · exact map_name_filterMap model (fun name member => (mem_of_order sorted).mp member)
  · intro declaration
    rw [List.mem_filterMap]
    constructor
    · intro named
      obtain ⟨name, _, found⟩ := named
      rwa [(mem_of_get?_arena found).2]
    · intro found
      exact ⟨declaration.name, (mem_of_order sorted).mpr ⟨declaration, found⟩, found⟩

/-! ## Changing the declarations -/

/-- The model with each declaration changed. -/
def mapDeclarations (model : Model) (change : Declaration → Declaration) : Model :=
  { model with declarations := model.declarations.map change }

section Change

variable (change : Declaration → Declaration)
  (named : ∀ declaration, (change declaration).name = declaration.name)

include named

theorem arena_mapDeclarations (model : Model) :
    (model.mapDeclarations change).arena = Keyed.mapEntries (fun _ => change) model.arena := by
  rw [arena, arena, ← Keyed.ofList_mapEntries, Keyed.mapEntries, mapDeclarations, List.map_map,
    List.map_map]
  simp only [Function.comp_def, named]

/-- Declarations keep their places in the order if the order of their names stays. -/
theorem ordered_mapDeclarations {model : Model}
    (sorted : (model.mapDeclarations change).graph.withoutCircles.order =
      model.graph.withoutCircles.order) :
    (model.mapDeclarations change).ordered = model.ordered.map (List.map change) := by
  rw [ordered, ordered, sorted]
  cases model.graph.withoutCircles.order with
  | error circle => rfl
  | ok names =>
      have found : (model.mapDeclarations change).arena.get? =
          fun name => (model.arena.get? name).map change :=
        funext (fun name => by rw [arena_mapDeclarations change named, Keyed.get?_mapEntries])
      simp only [Except.map, found, List.map_filterMap]

end Change

/-! ## Listing the declarations in another order -/

/-- The other model has the same declarations by name, perhaps listed in another order. -/
def Rearranges (other model : Model) : Prop :=
  other.arena.Perm model.arena

theorem Rearranges.refl (model : Model) : model.Rearranges model :=
  List.Perm.refl model.arena

theorem Rearranges.get?_arena {other model : Model} (rearranged : other.Rearranges model)
    (name : String) : other.arena.get? name = model.arena.get? name :=
  Keyed.get?_eq_of_perm other.nodup_keys_arena rearranged name

theorem Rearranges.dependsOn_iff {other model : Model} (rearranged : other.Rearranges model)
    {name dependency : String} :
    other.graph.DependsOn name dependency ↔ model.graph.DependsOn name dependency := by
  rw [Model.dependsOn_iff, Model.dependsOn_iff, rearranged.get?_arena]

theorem Rearranges.withoutCircles_leadsTo_iff {other model : Model}
    (rearranged : other.Rearranges model) {first last : String} :
    other.graph.withoutCircles.LeadsTo first last ↔
      model.graph.withoutCircles.LeadsTo first last := by
  apply Graph.leadsTo_congr
  exact Graph.dependsOn_withoutCircles_congr (fun _ _ => rearranged.dependsOn_iff)

/-- The declarations can be listed so that any one of them comes first. -/
theorem exists_rearrangement_starting {model : Model} {declaration : Declaration}
    (found : model.arena.get? declaration.name = some declaration) :
    ∃ (other : Model) (rest : List String),
      other.Rearranges model ∧ other.graph.keys = declaration.name :: rest := by
  obtain ⟨before, after, split⟩ := List.append_of_mem (Keyed.mem_of_get? found)
  let others := before ++ after
  let other : Model := ⟨declaration :: others.map Prod.snd, model.errors⟩
  have permutation : ((declaration.name, declaration) :: others).Perm model.arena := by
    rw [split]
    exact List.perm_middle.symm
  have distinct : (Keyed.keys ((declaration.name, declaration) :: others)).Nodup :=
    (permutation.map Prod.fst).nodup_iff.mpr model.nodup_keys_arena
  have named : ∀ entry ∈ others, (entry.2.name, entry.2) = entry := by
    intro entry member
    have inArena : entry ∈ model.arena :=
      permutation.subset (List.mem_cons_of_mem (declaration.name, declaration) member)
    exact named_of_mem_arena inArena
  have pairs : other.declarations.map (fun listed => (listed.name, listed)) =
      (declaration.name, declaration) :: others := by
    simp only [other, List.map_cons, List.map_map]
    congr 1
    exact (List.map_congr_left named).trans (List.map_id others)
  have arenaOfOther : other.arena = (declaration.name, declaration) :: others := by
    rw [arena, pairs, Keyed.ofList_of_nodup distinct]
  refine ⟨other, others.map Prod.fst, ?_, ?_⟩
  · rw [Rearranges, arenaOfOther]
    exact permutation
  · rw [graph_eq_mapEntries, Keyed.keys_mapEntries, arenaOfOther]
    rfl

end TypeScaffold.Model
