import TypeScaffold.Model.Basic

/-!
# Items that merge

An item of an array is updated by merging if its type is an object in the end: objects,
intersections, records, unions made only of those, and references to such declarations. A name that
is not declared is taken for an object. A circle of references settles at the first name that comes
again, whose declaration then counts by its own kind.
-/

namespace TypeScaffold

namespace TypeNode

mutual

/-- Whether items of the type merge, given the answer for references. -/
def mergesWith (reference : String → Bool) : TypeNode → Bool
  | .object _ _ | .intersection _ | .record _ _ => true
  | .union members => !members.isEmpty && allMergeWith reference members
  | .reference name => reference name
  | _ => false
termination_by structural node => node

def allMergeWith (reference : String → Bool) : List TypeNode → Bool
  | [] => true
  | member :: rest => mergesWith reference member && allMergeWith reference rest
termination_by structural members => members

end

end TypeNode

/-- Whether items of a declared type merge. The names that may still be followed are
`unvisited`. -/
def referenceMerges (arena : Keyed Declaration) (unvisited : List String) (name : String) : Bool :=
  match arena.get? name with
  | none => true
  | some target =>
      if _unvisited : name ∈ unvisited then
        target.type.mergesWith (referenceMerges arena (unvisited.erase name))
      else
        target.isObjectRoot
termination_by unvisited.length
decreasing_by
  have shorter := List.length_erase_of_mem _unvisited
  have positive := List.length_pos_of_mem _unvisited
  omega

def TypeNode.merges (arena : Keyed Declaration) (node : TypeNode) : Bool :=
  node.mergesWith (referenceMerges arena arena.keys)

end TypeScaffold
