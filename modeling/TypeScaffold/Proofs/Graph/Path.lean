import Mathlib.Logic.Relation
import TypeScaffold.Graph.Reach
import TypeScaffold.Proofs.Keyed

/-!
# Paths of dependencies

The names that gathering finds are exactly those to which a path leads from a pending one. From this
follow what recursive and needed names are: a name is recursive if a path of at least one step leads
back to it, and needed if a path leads to it from a dependency of an exported declaration.
-/

namespace TypeScaffold

open Relation

namespace Graph

/-- The first name depends on the second, which the graph need not have. -/
def DependsOn (graph : Graph) (name dependency : String) : Prop :=
  dependency ∈ graph.dependencies name

instance (graph : Graph) (name dependency : String) :
    Decidable (graph.DependsOn name dependency) :=
  inferInstanceAs (Decidable (dependency ∈ graph.dependencies name))

/-- A path of any number of steps, perhaps none. -/
abbrev Reaches (graph : Graph) : String → String → Prop :=
  ReflTransGen graph.DependsOn

/-- A path of at least one step. -/
abbrev LeadsTo (graph : Graph) : String → String → Prop :=
  TransGen graph.DependsOn

/-! ## Gathering -/

section Gathering

variable {next : String → List String} {domain pending : List String}

/-- Nothing is gathered without a path from a pending name. -/
theorem exists_path_of_mem_gather {name : String}
    (member : name ∈ gather next domain pending) :
    ∃ start ∈ pending, ReflTransGen (fun first second => second ∈ next first) start name := by
  induction domain, pending using gather.induct next with
  | case1 domain pending found =>
      rw [gather, found] at member
      cases member
  | case2 domain pending selected found inductionHypothesis =>
      rw [gather, found] at member
      have isPending : selected ∈ pending := List.mem_of_find?_eq_some found
      rcases List.mem_cons.mp member with rfl | later
      · exact ⟨name, isPending, ReflTransGen.refl⟩
      · obtain ⟨start, startMember, path⟩ := inductionHypothesis later
        rcases List.mem_append.mp startMember with step | old
        · exact ⟨selected, isPending, ReflTransGen.head step path⟩
        · exact ⟨start, old, path⟩

theorem mem_gather_of_pending {name : String}
    (isPending : name ∈ pending) (inside : name ∈ domain) :
    name ∈ gather next domain pending := by
  induction domain, pending using gather.induct next with
  | case1 domain pending found =>
      have outside := List.find?_eq_none.mp found name isPending
      exact absurd (List.contains_iff_mem.mpr inside) outside
  | case2 domain pending selected found inductionHypothesis =>
      rw [gather, found]
      by_cases same : name = selected
      · exact List.mem_cons.mpr (Or.inl same)
      · apply List.mem_cons_of_mem selected
        exact inductionHypothesis (List.mem_append_right (next selected) isPending)
          ((List.mem_erase_of_ne same).mpr inside)

/-- What is gathered is closed under steps inside the domain. -/
theorem mem_gather_of_step {first second : String}
    (gathered : first ∈ gather next domain pending) (step : second ∈ next first)
    (inside : second ∈ domain) : second ∈ gather next domain pending := by
  induction domain, pending using gather.induct next with
  | case1 domain pending found =>
      rw [gather, found] at gathered
      cases gathered
  | case2 domain pending selected found inductionHypothesis =>
      rw [gather, found] at gathered ⊢
      by_cases same : second = selected
      · exact List.mem_cons.mpr (Or.inl same)
      · have insideRest : second ∈ domain.erase selected :=
          (List.mem_erase_of_ne same).mpr inside
        apply List.mem_cons_of_mem selected
        rcases List.mem_cons.mp gathered with rfl | later
        · exact mem_gather_of_pending (List.mem_append_left pending step) insideRest
        · exact inductionHypothesis later insideRest

end Gathering

/-! ## Reaching -/

theorem mem_mentioned_of_dependsOn {graph : Graph} {name dependency : String}
    (step : graph.DependsOn name dependency) : dependency ∈ graph.mentioned := by
  rw [DependsOn, dependencies] at step
  cases found : Keyed.get? name graph with
  | none =>
      rw [found] at step
      cases step
  | some dependencies =>
      rw [found] at step
      exact List.mem_append_right graph.keys
        (List.mem_flatMap.mpr ⟨(name, dependencies), Keyed.mem_of_get? found, step⟩)

theorem has_iff {graph : Graph} {name : String} : graph.has name = true ↔ name ∈ graph.keys :=
  List.contains_iff_mem

theorem has_of_dependsOn {graph : Graph} {name dependency : String}
    (step : graph.DependsOn name dependency) : graph.has name = true := by
  rw [DependsOn, dependencies] at step
  cases found : Keyed.get? name graph with
  | none =>
      rw [found] at step
      cases step
  | some dependencies =>
      exact has_iff.mpr (List.mem_map_of_mem (Keyed.mem_of_get? found))

theorem mem_reach_iff {graph : Graph} {names : List String} {name : String} :
    name ∈ graph.reach names ↔ ∃ start ∈ names, graph.Reaches start name := by
  constructor
  · exact exists_path_of_mem_gather
  · intro reached
    obtain ⟨start, startMember, path⟩ := reached
    induction path with
    | refl =>
        apply mem_gather_of_pending startMember
        exact List.mem_eraseDups.mpr (List.mem_append_left graph.mentioned startMember)
    | tail _ step gathered =>
        apply mem_gather_of_step gathered step
        exact List.mem_eraseDups.mpr
          (List.mem_append_right names (mem_mentioned_of_dependsOn step))

theorem leadsTo_iff_exists_dependency {graph : Graph} {first last : String} :
    graph.LeadsTo first last ↔ ∃ start ∈ graph.dependencies first, graph.Reaches start last := by
  constructor
  · intro path
    obtain ⟨start, step, rest⟩ := TransGen.head'_iff.mp path
    exact ⟨start, step, rest⟩
  · intro stepped
    obtain ⟨start, step, rest⟩ := stepped
    exact TransGen.head' step rest

theorem has_of_leadsTo {graph : Graph} {first last : String}
    (path : graph.LeadsTo first last) : graph.has first = true := by
  obtain ⟨start, step, _⟩ := TransGen.head'_iff.mp path
  exact has_of_dependsOn step

theorem leadsTo_iff_mem_reach {graph : Graph} {first last : String} :
    graph.LeadsTo first last ↔ last ∈ graph.reach (graph.dependencies first) := by
  rw [leadsTo_iff_exists_dependency, mem_reach_iff]

instance (graph : Graph) (first last : String) : Decidable (graph.LeadsTo first last) :=
  decidable_of_iff (last ∈ graph.reach (graph.dependencies first)) leadsTo_iff_mem_reach.symm

/-- Only names that the graph has can lead back to themselves. -/
theorem forall_not_leadsTo_self_iff {graph : Graph} :
    (∀ name, ¬ graph.LeadsTo name name) ↔ ∀ name ∈ graph.keys, ¬ graph.LeadsTo name name := by
  constructor
  · intro acyclic name _
    exact acyclic name
  · intro acyclic name circle
    exact acyclic name (has_iff.mp (has_of_leadsTo circle)) circle

instance (graph : Graph) : Decidable (∀ name, ¬ graph.LeadsTo name name) :=
  decidable_of_iff (∀ name ∈ graph.keys, ¬ graph.LeadsTo name name) forall_not_leadsTo_self_iff.symm

/-- The recursive names are those that a path leads back to. -/
theorem mem_recursiveNames {graph : Graph} {name : String} :
    name ∈ graph.recursiveNames ↔ graph.LeadsTo name name := by
  rw [recursiveNames, NameSet.mem_ofList, List.mem_filter, List.contains_iff_mem,
    ← leadsTo_iff_mem_reach]
  constructor
  · exact And.right
  · intro path
    exact ⟨List.contains_iff_mem.mp (has_of_leadsTo path), path⟩

/-! ## The graph without circles -/

private theorem cutAmong_eq_mapEntries (graph : Graph) (names : List String) :
    graph.cutAmong names =
      Keyed.mapEntries (fun name dependencies =>
        dependencies.filter (fun dependency =>
          !(names.contains name && names.contains dependency))) graph :=
  rfl

@[simp]
theorem keys_cutAmong (graph : Graph) (names : List String) :
    (graph.cutAmong names).keys = graph.keys := by
  rw [cutAmong_eq_mapEntries, Keyed.keys_mapEntries]

theorem dependsOn_cutAmong {graph : Graph} {names : List String} {name dependency : String} :
    (graph.cutAmong names).DependsOn name dependency ↔
      graph.DependsOn name dependency ∧ ¬ (name ∈ names ∧ dependency ∈ names) := by
  rw [DependsOn, DependsOn, dependencies, dependencies, cutAmong_eq_mapEntries,
    Keyed.get?_mapEntries]
  cases Keyed.get? name graph with
  | none => simp
  | some dependencies => by_cases among : name ∈ names <;> simp [among]

@[simp]
theorem keys_withoutCircles (graph : Graph) : graph.withoutCircles.keys = graph.keys :=
  keys_cutAmong graph graph.recursiveNames

/-- A dependency is kept unless both its ends are recursive. -/
theorem dependsOn_withoutCircles {graph : Graph} {name dependency : String} :
    graph.withoutCircles.DependsOn name dependency ↔
      graph.DependsOn name dependency ∧
        ¬ (graph.LeadsTo name name ∧ graph.LeadsTo dependency dependency) := by
  rw [withoutCircles, dependsOn_cutAmong, mem_recursiveNames, mem_recursiveNames]

theorem leadsTo_of_withoutCircles {graph : Graph} {first last : String}
    (path : graph.withoutCircles.LeadsTo first last) : graph.LeadsTo first last :=
  TransGen.mono (fun _ _ step => (dependsOn_withoutCircles.mp step).1) first last path

/-- Without the dependencies between recursive names no path leads back. -/
theorem not_leadsTo_self_withoutCircles (graph : Graph) (name : String) :
    ¬ graph.withoutCircles.LeadsTo name name := by
  intro circle
  obtain ⟨second, step, rest⟩ := TransGen.head'_iff.mp circle
  obtain ⟨edge, kept⟩ := dependsOn_withoutCircles.mp step
  -- The circle can be entered at its second name as well.
  have fromSecond : graph.LeadsTo second second :=
    leadsTo_of_withoutCircles (TransGen.tail' rest step)
  exact kept ⟨leadsTo_of_withoutCircles circle, fromSecond⟩

/-! ## Graphs with the same dependencies -/

section Congruence

variable {graph other : Graph}
  (same : ∀ name dependency, graph.DependsOn name dependency ↔ other.DependsOn name dependency)

include same

theorem dependsOn_congr : graph.DependsOn = other.DependsOn := by
  funext name dependency
  exact propext (same name dependency)

theorem reaches_congr {first last : String} :
    graph.Reaches first last ↔ other.Reaches first last := by
  rw [Reaches, Reaches, dependsOn_congr same]

theorem leadsTo_congr {first last : String} :
    graph.LeadsTo first last ↔ other.LeadsTo first last := by
  rw [LeadsTo, LeadsTo, dependsOn_congr same]

theorem dependsOn_withoutCircles_congr (name dependency : String) :
    graph.withoutCircles.DependsOn name dependency ↔
      other.withoutCircles.DependsOn name dependency := by
  rw [dependsOn_withoutCircles, dependsOn_withoutCircles, same, leadsTo_congr same,
    leadsTo_congr same]

end Congruence

end Graph

/-- A name is needed if a path leads to it from a dependency of an exported declaration. -/
theorem Model.mem_neededNames {model : Model} {name : String} :
    name ∈ model.neededNames ↔
      ∃ declaration ∈ model.declarations, declaration.exported = true ∧
        ∃ start ∈ declaration.dependencies, model.graph.Reaches start name := by
  rw [neededNames, NameSet.mem_ofList, Graph.mem_reach_iff]
  simp only [List.mem_flatMap, List.mem_filter]
  constructor
  · intro reached
    obtain ⟨start, ⟨declaration, ⟨member, exported⟩, startMember⟩, path⟩ := reached
    exact ⟨declaration, member, exported, start, startMember, path⟩
  · intro needed
    obtain ⟨declaration, member, exported, start, startMember, path⟩ := needed
    exact ⟨start, ⟨declaration, ⟨member, exported⟩, startMember⟩, path⟩

end TypeScaffold
