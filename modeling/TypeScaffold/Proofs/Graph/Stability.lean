import TypeScaffold.Proofs.Graph.Sorting

/-!
# Orders that are kept

The traversal takes the names of a graph one after the other and the dependencies of each in the order
of their code points. If all dependencies of a name are listed before the traversal comes to it, then
nothing is put in between, so names that stand in order already stay where they are. An order that has
been found is therefore found again when the graph lists its names in that order.
-/

namespace TypeScaffold.Graph

/-! ## The traversal of names in order -/

/-- Names that are listed already add nothing. -/
theorem visitAll_of_listed {graph : Graph} {path order : List String} :
    ∀ {names : List String}, (∀ name ∈ names, name ∈ order) →
      graph.visitAll path names order = .ok order
  | [], _ => by rw [visitAll]
  | name :: rest, listed => by
      have first : order.contains name = true :=
        List.contains_iff_mem.mpr (listed name List.mem_cons_self)
      rw [visitAll, visit, if_pos first]
      exact visitAll_of_listed (fun other member => listed other (List.mem_cons_of_mem name member))

/-- A name whose dependencies are listed comes next. -/
theorem visit_of_listed_dependencies {graph : Graph} {path order : List String} {name : String}
    (fresh : name ∉ order) (known : graph.has name = true) (offPath : name ∉ path)
    (complete : ∀ dependency, graph.DependsOn name dependency → graph.has dependency = true →
      dependency ∈ order) :
    graph.visit path name order = .ok (order ++ [name]) := by
  have children : ∀ dependency ∈ (NameSet.ofList (graph.dependencies name)).filter graph.has,
      dependency ∈ order := by
    intro dependency child
    obtain ⟨step, has⟩ := mem_children.mp child
    exact complete dependency step has
  rw [visit, if_neg (by simpa using fresh), dif_pos known, dif_neg (by simpa using offPath),
    visitAll_of_listed children]

/-- Names that complete a settled order are listed as they come. -/
theorem visitAll_of_settled {graph : Graph} :
    ∀ {names order : List String}, graph.Settled (order ++ names) →
      graph.visitAll [] names order = .ok (order ++ names)
  | [], order, _ => by rw [visitAll, List.append_nil]
  | name :: rest, order, settled => by
      have apart : name ∉ order := by
        intro there
        exact List.disjoint_of_nodup_append settled.distinct there List.mem_cons_self
      have known : graph.has name = true :=
        settled.known name (List.mem_append_right order List.mem_cons_self)
      have complete : ∀ dependency, graph.DependsOn name dependency →
          graph.has dependency = true → dependency ∈ order :=
        settled.closed order name ⟨rest, by simp⟩
      have visited : graph.visit [] name order = .ok (order ++ [name]) :=
        visit_of_listed_dependencies apart known List.not_mem_nil complete
      have others : graph.visitAll [] rest (order ++ [name]) = .ok (order ++ [name] ++ rest) :=
        visitAll_of_settled (by rwa [List.append_assoc])
      rw [visitAll, visited]
      change graph.visitAll [] rest (order ++ [name]) = .ok (order ++ name :: rest)
      rw [others, List.append_assoc, List.singleton_append]

theorem order_of_settled {graph : Graph} (settled : graph.Settled graph.keys) :
    graph.order = .ok graph.keys := by
  rw [order]
  exact visitAll_of_settled settled

/-! ## Listing the names in order -/

/-- Whether names stand in order is seen from the dependencies of each name of the graph. -/
theorem listsInOrder_iff {graph : Graph} {names : List String} :
    graph.ListsInOrder names ↔
      names.Nodup ∧ names ⊆ graph.keys ∧ graph.keys ⊆ names ∧
        ∀ name ∈ graph.keys, ∀ dependency ∈ graph.dependencies name, dependency ∈ graph.keys →
          names.idxOf dependency < names.idxOf name := by
  constructor
  · intro lists
    exact ⟨lists.distinct, fun name => (lists.mem_iff name).mp, fun name => (lists.mem_iff name).mpr,
      fun name _ => lists.inOrder name⟩
  · intro lists
    obtain ⟨distinct, known, complete, earlier⟩ := lists
    refine ⟨distinct, fun name => ⟨fun member => known member, fun member => complete member⟩, ?_⟩
    intro name dependency step there
    exact earlier name (has_iff.mp (has_of_dependsOn step)) dependency step there

instance (graph : Graph) (names : List String) : Decidable (graph.ListsInOrder names) :=
  decidable_of_iff _ listsInOrder_iff.symm

theorem ListsInOrder.settled {graph : Graph} {names : List String}
    (lists : graph.ListsInOrder names) : graph.Settled names where
  distinct := lists.distinct
  known name member := has_iff.mpr ((lists.mem_iff name).mp member)
  closed := by
    intro initial name prefixed dependency step has
    obtain ⟨rest, rfl⟩ := prefixed
    have earlier := lists.inOrder name dependency step (has_iff.mp has)
    have apart : name ∉ initial := by
      intro there
      have distinct := lists.distinct.of_append_left
      exact List.disjoint_of_nodup_append distinct there List.mem_cons_self
    have place : (initial ++ [name] ++ rest).idxOf name = initial.length := by
      rw [List.append_assoc, List.idxOf_append_of_notMem apart]
      simp
    rw [place, List.append_assoc] at earlier
    by_contra missing
    rw [List.idxOf_append_of_notMem missing] at earlier
    omega

/-- The graph with its names listed in another order. -/
def listedBy (graph : Graph) (names : List String) : Graph :=
  names.map (fun name => (name, graph.dependencies name))

@[simp]
theorem keys_listedBy (graph : Graph) (names : List String) :
    (graph.listedBy names).keys = names := by
  rw [listedBy, Keyed.keys, List.map_map]
  exact List.map_id names

theorem dependencies_listedBy (graph : Graph) {names : List String} {name : String}
    (member : name ∈ names) :
    (graph.listedBy names).dependencies name = graph.dependencies name := by
  induction names with
  | nil => cases member
  | cons first rest inductionHypothesis =>
      rw [listedBy, List.map_cons, dependencies, Keyed.get?]
      by_cases same : first = name
      · rw [if_pos same, Option.getD_some, same]
      · have later : name ∈ rest := (List.mem_cons.mp member).resolve_left (Ne.symm same)
        rw [if_neg same]
        exact inductionHypothesis later

theorem listedBy_keys {graph : Graph} (distinct : graph.keys.Nodup) :
    graph.listedBy graph.keys = graph := by
  have entries : ∀ entry ∈ graph, (entry.1, graph.dependencies entry.1) = entry := by
    intro entry member
    have found : Keyed.get? entry.1 graph = some entry.2 :=
      (Keyed.get?_eq_some_iff distinct).mpr member
    rw [dependencies, found, Option.getD_some]
  rw [listedBy, Keyed.keys, List.map_map]
  exact (List.map_congr_left entries).trans (List.map_id graph)

/-- The order of a graph lists its entries in another order. -/
theorem listedBy_perm {graph : Graph} {names : List String} (distinct : graph.keys.Nodup)
    (lists : graph.ListsInOrder names) : (graph.listedBy names).Perm graph := by
  have permutation : names.Perm graph.keys :=
    (List.perm_ext_iff_of_nodup lists.distinct distinct).mpr lists.mem_iff
  have entries := permutation.map (fun name => (name, graph.dependencies name))
  rwa [← listedBy, ← listedBy, listedBy_keys distinct] at entries

theorem ListsInOrder.listedBy {graph : Graph} {names : List String}
    (lists : graph.ListsInOrder names) : (graph.listedBy names).ListsInOrder names where
  distinct := lists.distinct
  mem_iff name := by rw [keys_listedBy]
  inOrder := by
    intro name dependency step there
    have member : name ∈ names := by
      have known := has_iff.mp (has_of_dependsOn step)
      rwa [keys_listedBy] at known
    rw [DependsOn, dependencies_listedBy graph member] at step
    rw [keys_listedBy] at there
    exact lists.inOrder name dependency step ((lists.mem_iff dependency).mp there)

/-- A graph has its own listing as its order exactly if its names stand in order. With its names
listed in an order that has been found, a graph has the same entries and the same order. -/
theorem order_keeps_listing_in_order (graph : Graph) :
    (graph.order = .ok graph.keys ↔ graph.ListsInOrder graph.keys) ∧
      ∀ names, graph.order = .ok names →
        (graph.listedBy names).keys = names ∧
        (graph.keys.Nodup → (graph.listedBy names).Perm graph) ∧
        (graph.listedBy names).order = .ok names := by
  have kept (other : Graph) (lists : other.ListsInOrder other.keys) :
      other.order = .ok other.keys :=
    order_of_settled lists.settled
  refine ⟨⟨listsInOrder_of_order, kept graph⟩, ?_⟩
  intro names sorted
  have lists := listsInOrder_of_order sorted
  have relisted : (graph.listedBy names).ListsInOrder (graph.listedBy names).keys := by
    rw [keys_listedBy]
    exact lists.listedBy
  have again := kept (graph.listedBy names) relisted
  rw [keys_listedBy] at again
  exact ⟨keys_listedBy graph names, fun distinct => listedBy_perm distinct lists, again⟩

/-- Steps of a recipe in an order in which they can be taken; water is no step. -/
def soupGraph : Graph :=
  [("Wash", ["Water"]), ("Peel", ["Wash"]), ("Chop", ["Wash", "Peel"]), ("Boil", ["Chop", "Water"])]

/-- The same steps in an order in which they cannot be taken. -/
def jumbledSoupGraph : Graph :=
  soupGraph.listedBy ["Boil", "Peel", "Chop", "Wash"]

theorem soup_order_kept :
    (soupGraph.ListsInOrder soupGraph.keys ∧ soupGraph.order = .ok soupGraph.keys) ∧
      ∃ names, jumbledSoupGraph.order = .ok names ∧ names ≠ jumbledSoupGraph.keys ∧
        (jumbledSoupGraph.listedBy names).Perm jumbledSoupGraph ∧
        (jumbledSoupGraph.listedBy names).order = .ok names := by
  have lists : soupGraph.ListsInOrder soupGraph.keys := by decide +kernel
  have acyclic : ∀ name, ¬ jumbledSoupGraph.LeadsTo name name := by decide +kernel
  obtain ⟨names, sorted⟩ := exists_order acyclic
  obtain ⟨inOrder, relisted⟩ := order_keeps_listing_in_order jumbledSoupGraph
  obtain ⟨_, permuted, again⟩ := relisted names sorted
  refine ⟨⟨lists, (order_keeps_listing_in_order soupGraph).1.mpr lists⟩, names, sorted, ?_,
    permuted (by decide), again⟩
  intro same
  have jumbled : ¬ jumbledSoupGraph.ListsInOrder jumbledSoupGraph.keys := by decide +kernel
  exact jumbled (inOrder.mp (same ▸ sorted))

end TypeScaffold.Graph
