import TypeScaffold.Diagnostic
import TypeScaffold.Graph.Order

/-!
# Contexts

What the generation of one declaration needs to know about the others.
-/

namespace TypeScaffold

/-- The names that depend on themselves, the names that exported declarations need, and the
declarations by name. -/
structure Context where
  recursive : List String
  needed : List String
  arena : Keyed Declaration

/-- The context in which the declarations of a model are generated. -/
def Context.ofModel (model : Model) : Context :=
  ⟨model.graph.recursiveNames, model.neededNames, model.arena⟩

/-- Whether a name depends on itself. -/
def Context.isRecursive (context : Context) (name : String) : Bool :=
  context.recursive.contains name

/-- Whether an exported declaration needs the name. -/
def Context.isNeeded (context : Context) (name : String) : Bool :=
  context.needed.contains name

/-- The context in which a name counts as recursive. -/
def Context.addRecursive (context : Context) (name : String) : Context :=
  { context with recursive := name :: context.recursive }

/-- The context in which a name counts as needed. -/
def Context.addNeeded (context : Context) (name : String) : Context :=
  { context with needed := name :: context.needed }

/-- What a generator makes of a declaration, if anything, and what it reports. -/
structure Outcome (α : Type) where
  result : Option α
  diagnostics : List Diagnostic

/-- Nothing is made, for one reason after other reports. -/
def Outcome.skip {α : Type} (before : List Diagnostic) (reason : Diagnostic) : Outcome α :=
  ⟨none, before ++ [reason]⟩

def Outcome.map {α β : Type} (change : α → β) (outcome : Outcome α) : Outcome β :=
  ⟨outcome.result.map change, outcome.diagnostics⟩

end TypeScaffold
