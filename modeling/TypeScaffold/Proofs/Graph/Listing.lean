import TypeScaffold.Proofs.Graph.Ordering
import TypeScaffold.Proofs.NameSet

/-!
# Listing dependencies in another order

Two graphs with the same names in the same order may list the dependencies of each name in another
order, and some of them several times. Reachability does not depend on such a listing, and the
traversal of the order sorts the dependencies before it follows them. So both graphs have the same
recursive names, and the same order or the same circle.
-/

namespace TypeScaffold.Graph

/-- Both graphs have the same names in the same order, and each name depends in both on the same
names. -/
structure Relists (graph other : Graph) : Prop where
  keys : graph.keys = other.keys
  dependsOn_iff : ∀ name dependency, graph.DependsOn name dependency ↔ other.DependsOn name dependency

theorem Relists.symm {graph other : Graph} (relists : graph.Relists other) :
    other.Relists graph :=
  ⟨relists.keys.symm, fun name dependency => (relists.dependsOn_iff name dependency).symm⟩

theorem Relists.trans {graph middle other : Graph} (before : graph.Relists middle)
    (after : middle.Relists other) : graph.Relists other where
  keys := before.keys.trans after.keys
  dependsOn_iff name dependency :=
    (before.dependsOn_iff name dependency).trans (after.dependsOn_iff name dependency)

section Relists

variable {graph other : Graph} (relists : graph.Relists other)

include relists

theorem Relists.has_eq : graph.has = other.has := by
  funext name
  rw [has, has, relists.keys]

theorem Relists.recursiveNames_eq : graph.recursiveNames = other.recursiveNames := by
  apply NameSet.eq_of_mem_iff
  intro name
  change name ∈ graph.recursiveNames ↔ name ∈ other.recursiveNames
  rw [mem_recursiveNames, mem_recursiveNames, leadsTo_congr relists.dependsOn_iff]

theorem Relists.withoutCircles : graph.withoutCircles.Relists other.withoutCircles where
  keys := by
    rw [keys_withoutCircles, keys_withoutCircles, relists.keys]
  dependsOn_iff := dependsOn_withoutCircles_congr relists.dependsOn_iff

/-- The dependencies are followed as a set. -/
theorem Relists.ofList_dependencies_eq (name : String) :
    NameSet.ofList (graph.dependencies name) = NameSet.ofList (other.dependencies name) :=
  NameSet.ofList_eq_of_mem_iff (relists.dependsOn_iff name)

end Relists

/-! ## The traversal -/

mutual

theorem visit_eq_of_relists {graph other : Graph} (relists : graph.Relists other)
    (path : List String) (name : String) (order : List String) :
    graph.visit path name order = other.visit path name order := by
  rw [visit, visit, relists.has_eq, relists.ofList_dependencies_eq]
  by_cases listed : order.contains name
  · rw [if_pos listed, if_pos listed]
  rw [if_neg listed, if_neg listed]
  by_cases known : other.has name
  · rw [dif_pos known, dif_pos known]
    by_cases onPath : path.contains name
    · rw [dif_pos onPath, dif_pos onPath]
    · have knownToo : graph.has name = true := relists.has_eq ▸ known
      rw [dif_neg onPath, dif_neg onPath, visitAll_eq_of_relists relists]
  · rw [dif_neg known, dif_neg known]
termination_by ((graph.offPath path).length, 0)
decreasing_by
  apply Prod.Lex.left
  exact length_offPath_append knownToo (by simpa using onPath)

theorem visitAll_eq_of_relists {graph other : Graph} (relists : graph.Relists other)
    (path : List String) : ∀ names order : List String,
      graph.visitAll path names order = other.visitAll path names order
  | [], order => by rw [visitAll, visitAll]
  | name :: rest, order => by
      rw [visitAll, visitAll, visit_eq_of_relists relists path name order]
      cases other.visit path name order with
      | ok longer => exact visitAll_eq_of_relists relists path rest longer
      | error circle => rfl
termination_by names => ((graph.offPath path).length, names.length + 1)

end

/-- Both graphs have the same order, or the same circle is found in both. -/
theorem Relists.order_eq {graph other : Graph} (relists : graph.Relists other) :
    graph.order = other.order := by
  rw [order, order, relists.keys, visitAll_eq_of_relists relists]

end TypeScaffold.Graph
