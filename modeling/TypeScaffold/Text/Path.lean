/-!
# Paths

A path is a list of steps between slashes. Empty steps and steps that stay in place do not matter.
-/

namespace TypeScaffold.Text.Path

/-- The steps of a path that lead somewhere. -/
def steps (path : String) : List String :=
  (path.splitOn "/").filter (fun step => step ≠ "" && step ≠ ".")

/-- A path in its shortest spelling. Exactly two slashes in front are kept as they are. -/
def shortest (path : String) : String :=
  let root :=
    if path.startsWith "//" ∧ ¬ path.startsWith "///" then "//"
    else if path.startsWith "/" then "/"
    else ""
  match root ++ "/".intercalate (steps path) with
  | "" => "."
  | text => text

end TypeScaffold.Text.Path
