import TypeScaffold.Graph.Reach

/-!
# Dependency order

A depth-first order in which every name comes after the names of the graph that it depends on. Names
are taken in the order of the graph and dependencies in that of their code points. A circle is
reported as the path that closes it.
-/

namespace TypeScaffold

/-- Names that depend on one another in a circle; the first is repeated at the end. -/
structure Circle where
  path : List String
  deriving DecidableEq, Repr

def Circle.message (circle : Circle) : String :=
  "Circular dependency detected: " ++ " -> ".intercalate circle.path

namespace Graph

/-- The names of the graph that are not on the path. -/
def offPath (graph : Graph) (path : List String) : List String :=
  graph.keys.filter (fun name => !path.contains name)

/-- A name of the graph that goes onto the path was off it before. -/
theorem length_offPath_append {graph : Graph} {path : List String} {name : String}
    (known : graph.has name = true) (fresh : path.contains name = false) :
    (graph.offPath (path ++ [name])).length < (graph.offPath path).length := by
  have member : name ∈ graph.keys := List.contains_iff_mem.mp known
  have split : graph.offPath (path ++ [name]) =
      (graph.offPath path).filter (fun other => !decide (other = name)) := by
    unfold offPath
    rw [List.filter_filter]
    apply List.filter_congr
    intro other _
    by_cases same : other = name <;> by_cases onPath : other ∈ path <;> simp [same, onPath]
  rw [split]
  apply List.length_filter_lt_length_iff_exists.mpr
  refine ⟨name, ?_, by simp⟩
  unfold offPath
  rw [List.mem_filter]
  exact ⟨member, by simp only [fresh, Bool.not_false]⟩

mutual

/-- Put a name after its dependencies at the end of the order; `path` leads to it. -/
def visit (graph : Graph) (path : List String) (name : String) (order : List String) :
    Except Circle (List String) :=
  if order.contains name then
    .ok order
  else if _known : graph.has name then
    if _onPath : path.contains name then
      .error ⟨path.dropWhile (· ≠ name) ++ [name]⟩
    else
      match visitAll graph (path ++ [name])
          ((NameSet.ofList (graph.dependencies name)).filter graph.has) order with
      | .ok order => .ok (order ++ [name])
      | .error circle => .error circle
  else
    .ok order
termination_by ((graph.offPath path).length, 0)
decreasing_by
  apply Prod.Lex.left
  exact length_offPath_append _known (by simpa using _onPath)

/-- Put names one after the other, each after its dependencies, at the end of the order. -/
def visitAll (graph : Graph) (path : List String) :
    List String → List String → Except Circle (List String)
  | [], order => .ok order
  | name :: rest, order =>
      match visit graph path name order with
      | .ok order => visitAll graph path rest order
      | .error circle => .error circle
termination_by names => ((graph.offPath path).length, names.length + 1)

end

/-- All names of the graph, dependencies first. -/
def order (graph : Graph) : Except Circle (List String) :=
  graph.visitAll [] graph.keys []

end Graph

/-- One declaration for each declared name, dependencies first; dependencies between declarations
that depend on themselves are left aside. -/
def Model.ordered (model : Model) : Except Circle (List Declaration) :=
  model.graph.withoutCircles.order.map (fun names => names.filterMap model.arena.get?)

end TypeScaffold
