import TypeScaffold.Proofs.Graph.Ordering

/-!
# Circles through recursive names

A name is recursive if a path leads back to it. Such a path can be shortened until no name comes twice
on it, so a recursive name lies on a circle of distinct names. All names of a closed path are
recursive, however long the path is. A name from which a path only leads to a circle is not.
-/

namespace TypeScaffold.Graph

open Relation

/-- What stands behind a part of a trail is a trail. -/
theorem Trail.of_append {graph : Graph} {before after : List String} {name : String}
    (trail : graph.Trail (before ++ after) name) : graph.Trail after name where
  distinct := trail.distinct.of_append_right
  known member there := trail.known member (List.mem_append_right before there)
  chain := by
    have chain := trail.chain
    rw [List.append_assoc] at chain
    exact chain.right_of_append

/-- A path can be taken over distinct names. -/
theorem exists_trail_of_leadsTo {graph : Graph} {first last : String}
    (path : graph.LeadsTo first last) : ∃ rest, graph.Trail (first :: rest) last := by
  induction path using TransGen.head_induction_on with
  | @single name step =>
      refine ⟨[], ⟨List.nodup_singleton name, ?_, ?_⟩⟩
      · intro member there
        exact List.mem_singleton.mp there ▸ has_of_dependsOn step
      · exact List.isChain_pair.mpr step
  | @head name second step _ inductionHypothesis =>
      obtain ⟨rest, trail⟩ := inductionHypothesis
      by_cases again : name ∈ second :: rest
      · -- The path comes back to its first name and can begin there.
        obtain ⟨before, after, split⟩ := List.append_of_mem again
        rw [split] at trail
        exact ⟨after, trail.of_append⟩
      · refine ⟨second :: rest, ⟨List.nodup_cons.mpr ⟨again, trail.distinct⟩, ?_, ?_⟩⟩
        · exact List.forall_mem_cons.mpr ⟨has_of_dependsOn step, trail.known⟩
        · exact List.isChain_cons_cons.mpr ⟨step, trail.chain⟩

/-- A name that leads back to itself begins a circle of distinct names. -/
theorem exists_circle_of_leadsTo_self {graph : Graph} {name : String}
    (path : graph.LeadsTo name name) :
    ∃ rest, (Circle.mk (name :: rest ++ [name])).RunsIn graph := by
  obtain ⟨rest, trail⟩ := exists_trail_of_leadsTo path
  exact ⟨rest, name, rest, rfl, trail.distinct, trail.known, trail.chain⟩

/-- The recursive names are the names of the graph that a path leads back to. Each begins a circle of
distinct names, and each name on a closed path is recursive. -/
theorem recursiveNames_lie_on_circles (graph : Graph) :
    graph.recursiveNames.Nodup ∧
      (∀ name, name ∈ graph.recursiveNames ↔ name ∈ graph.keys ∧ graph.LeadsTo name name) ∧
      (∀ name ∈ graph.recursiveNames,
        ∃ rest, (Circle.mk (name :: rest ++ [name])).RunsIn graph) ∧
      ∀ first rest, (first :: rest ++ [first]).IsChain graph.DependsOn →
        ∀ name ∈ first :: rest, name ∈ graph.recursiveNames := by
  refine ⟨NameSet.nodup_ofList _, ?_, ?_, ?_⟩
  · intro name
    rw [mem_recursiveNames]
    constructor
    · intro path
      exact ⟨has_iff.mp (has_of_leadsTo path), path⟩
    · intro known
      exact known.2
  · intro name member
    exact exists_circle_of_leadsTo_self (mem_recursiveNames.mp member)
  · intro first rest chain name member
    exact mem_recursiveNames.mpr (leadsTo_self_of_isChain chain member)

/-- Parts of a compiler. The lexer, its table and the trees need one another in a circle, to which the
parser only leads. -/
def compilerGraph : Graph :=
  [("Parser", ["Lexer", "Tree"]), ("Lexer", ["Table", "Text"]), ("Table", ["Tree"]),
    ("Tree", ["Lexer"]), ("Scope", ["Scope", "Tree"])]

theorem compiler_circles :
    (compilerGraph.LeadsTo "Parser" "Tree" ∧ compilerGraph.LeadsTo "Tree" "Tree" ∧
        "Parser" ∉ compilerGraph.recursiveNames) ∧
      ["Lexer", "Table", "Tree", "Lexer"].IsChain compilerGraph.DependsOn ∧
      (∀ name ∈ ["Lexer", "Table", "Tree"], name ∈ compilerGraph.recursiveNames) ∧
      ∃ rest, (Circle.mk ("Scope" :: rest ++ ["Scope"])).RunsIn compilerGraph := by
  obtain ⟨_, recursive, circles, closed⟩ := recursiveNames_lie_on_circles compilerGraph
  have apart : ¬ compilerGraph.LeadsTo "Parser" "Parser" := by decide +kernel
  have chain : ["Lexer", "Table", "Tree", "Lexer"].IsChain compilerGraph.DependsOn := by
    decide +kernel
  have scope : "Scope" ∈ compilerGraph.recursiveNames :=
    (recursive "Scope").mpr (by decide +kernel)
  refine ⟨⟨by decide +kernel, by decide +kernel, ?_⟩, chain,
    closed "Lexer" ["Table", "Tree"] chain, circles "Scope" scope⟩
  intro member
  exact apart ((recursive "Parser").mp member).2

end TypeScaffold.Graph
