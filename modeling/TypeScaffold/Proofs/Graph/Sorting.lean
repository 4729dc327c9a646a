import TypeScaffold.Proofs.Graph.Ordering

/-!
# Which graphs have an order

A graph without circles has an order, in which every name comes after the names of the graph that it
depends on. A graph with a circle has none, and the circle that is reported is one of its own. Names
that are depended upon but that the graph does not have play no part: no path goes on from them.
-/

namespace TypeScaffold.Graph

/-- The names of the graph, each once and each behind those of its dependencies that the graph
has. -/
structure ListsInOrder (graph : Graph) (names : List String) : Prop where
  distinct : names.Nodup
  mem_iff : ∀ name, name ∈ names ↔ name ∈ graph.keys
  inOrder : ∀ name dependency, graph.DependsOn name dependency → dependency ∈ graph.keys →
    names.idxOf dependency < names.idxOf name

/-- A graph has an order only if no path leads back to where it began. -/
theorem not_leadsTo_self_of_order {graph : Graph} {names : List String}
    (sorted : graph.order = .ok names) (name : String) : ¬ graph.LeadsTo name name := by
  intro circle
  have member : name ∈ names := (mem_of_order sorted).mpr (has_of_leadsTo circle)
  exact (extends_of_order sorted).settled.not_leadsTo_self member circle

theorem listsInOrder_of_order {graph : Graph} {names : List String}
    (sorted : graph.order = .ok names) : graph.ListsInOrder names where
  distinct := (extends_of_order sorted).settled.distinct
  mem_iff name := (mem_of_order sorted).trans has_iff
  inOrder := by
    intro name dependency step there
    have apart : dependency ≠ name := by
      rintro rfl
      exact not_leadsTo_self_of_order sorted dependency (Relation.TransGen.single step)
    have member : dependency ∈ names := (mem_of_order sorted).mpr (has_iff.mpr there)
    have dependent : name ∈ names := (mem_of_order sorted).mpr (has_of_dependsOn step)
    exact (extends_of_order sorted).settled.idxOf_lt_of_leadsTo member dependent
      (Relation.TransGen.single step) apart

/-- Without a circle the traversal lists the names of the graph in order; with one it reports a
circle that runs through distinct names of the graph. -/
theorem order_lists_or_finds_circle (graph : Graph) :
    ((∀ name, ¬ graph.LeadsTo name name) →
      ∃ names, graph.order = .ok names ∧ graph.ListsInOrder names) ∧
    ((∃ name, graph.LeadsTo name name) →
      ∃ circle, graph.order = .error circle ∧ circle.RunsIn graph) := by
  constructor
  · intro acyclic
    obtain ⟨names, sorted⟩ := exists_order acyclic
    exact ⟨names, sorted, listsInOrder_of_order sorted⟩
  · intro circular
    obtain ⟨name, path⟩ := circular
    have answer := graph.answers_order
    cases sorted : graph.order with
    | ok names => exact absurd path (not_leadsTo_self_of_order sorted name)
    | error circle =>
        rw [sorted] at answer
        exact ⟨circle, rfl, answer⟩

/-- Courses with what they require; one of the requirements is no course. -/
def courseGraph : Graph :=
  [("Topology", ["Analysis", "Sets"]), ("Analysis", ["Algebra", "Sets", "School"]),
    ("Sets", []), ("Algebra", ["Sets"])]

/-- Courses of which two require one another, apart from one that requires both. -/
def tangledCourseGraph : Graph :=
  [("Logic", ["Proofs", "Sets"]), ("Proofs", ["Sets"]), ("Sets", ["School", "Proofs"])]

theorem courses_ordered_or_tangled :
    ((∀ name, ¬ courseGraph.LeadsTo name name) ∧
      ∃ names, courseGraph.order = .ok names ∧ courseGraph.ListsInOrder names) ∧
    ((∃ name, tangledCourseGraph.LeadsTo name name) ∧
      ∃ circle, tangledCourseGraph.order = .error circle ∧ circle.RunsIn tangledCourseGraph) := by
  have acyclic : ∀ name, ¬ courseGraph.LeadsTo name name := by
    have none : ∀ name ∈ courseGraph.keys, ¬ courseGraph.LeadsTo name name := by decide +kernel
    intro name circle
    exact none name (has_iff.mp (has_of_leadsTo circle)) circle
  have circular : ∃ name, tangledCourseGraph.LeadsTo name name := ⟨"Sets", by decide +kernel⟩
  exact ⟨⟨acyclic, (order_lists_or_finds_circle courseGraph).1 acyclic⟩,
    circular, (order_lists_or_finds_circle tangledCourseGraph).2 circular⟩

end TypeScaffold.Graph
