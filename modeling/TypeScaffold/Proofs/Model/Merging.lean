import Mathlib.Data.Nat.Find
import TypeScaffold.Model.Merging

/-!
# Which items merge

Items merge if their type comes down to objects, intersections, records and undeclared names. A union
comes down to what all of its members do, and a declared name to what its type does. That the search
stops at a name that comes again makes no difference to the answer.
-/

namespace TypeScaffold

namespace TypeNode

/-- The type comes down to objects, intersections, records and undeclared names. -/
inductive IsObjectLike (arena : Keyed Declaration) : TypeNode → Prop
  | object {properties : List Property} {name : Option String} :
      IsObjectLike arena (.object properties name)
  | intersection {members : List TypeNode} : IsObjectLike arena (.intersection members)
  | record {key value : Option TypeNode} : IsObjectLike arena (.record key value)
  | union {members : List TypeNode} (filled : members ≠ [])
      (all : ∀ member ∈ members, IsObjectLike arena member) : IsObjectLike arena (.union members)
  | undeclared {name : String} (missing : arena.get? name = none) :
      IsObjectLike arena (.reference name)
  | declared {name : String} {target : Declaration} (found : arena.get? name = some target)
      (like : IsObjectLike arena target.type) : IsObjectLike arena (.reference name)

variable {arena : Keyed Declaration}

/-! ## Types that merge -/

mutual

theorem isObjectLike_of_mergesWith {reference : String → Bool}
    (sound : ∀ name, reference name = true → IsObjectLike arena (.reference name)) :
    ∀ node : TypeNode, node.mergesWith reference = true → node.IsObjectLike arena
  | .object _ _, _ => .object
  | .intersection _, _ => .intersection
  | .record _ _, _ => .record
  | .union members, merging => by
      rw [mergesWith, Bool.and_eq_true, Bool.not_eq_true', List.isEmpty_eq_false_iff] at merging
      exact .union merging.1 (forall_isObjectLike_of_allMergeWith sound members merging.2)
  | .reference name, merging => by
      rw [mergesWith] at merging
      exact sound name merging
  | .primitive _, merging | .literal _, merging | .array _, merging | .tuple _, merging
  | .enumeration _ _, merging | .function, merging | .unknown _, merging => by
      simp [mergesWith] at merging

theorem forall_isObjectLike_of_allMergeWith {reference : String → Bool}
    (sound : ∀ name, reference name = true → IsObjectLike arena (.reference name)) :
    ∀ members : List TypeNode, allMergeWith reference members = true →
      ∀ member ∈ members, member.IsObjectLike arena
  | [], _ => List.forall_mem_nil _
  | first :: rest, merging => by
      rw [allMergeWith, Bool.and_eq_true] at merging
      rw [List.forall_mem_cons]
      exact ⟨isObjectLike_of_mergesWith sound first merging.1,
        forall_isObjectLike_of_allMergeWith sound rest merging.2⟩

end

theorem isObjectLike_of_referenceMerges {unvisited : List String} {name : String}
    (merging : referenceMerges arena unvisited name = true) :
    IsObjectLike arena (.reference name) := by
  rw [referenceMerges] at merging
  split at merging
  · rename_i missing
    exact .undeclared missing
  · rename_i target found
    split at merging
    · rename_i fresh
      have shorter := List.length_erase_of_mem fresh
      have positive := List.length_pos_of_mem fresh
      have sound : ∀ other, referenceMerges arena (unvisited.erase name) other = true →
          IsObjectLike arena (.reference other) :=
        fun _ => isObjectLike_of_referenceMerges
      exact .declared found (isObjectLike_of_mergesWith sound target.type merging)
    · rw [Declaration.isObjectRoot] at merging
      cases root : target.type with
      | object properties typeName => exact .declared found (root ▸ .object)
      | _ => simp [root, isObject] at merging
termination_by unvisited.length
decreasing_by omega

/-! ## Types that come down to objects -/

/-- The type comes down to objects and the like when at most so many declared names are followed one
after the other. -/
inductive IsObjectLikeWithin (arena : Keyed Declaration) : Nat → TypeNode → Prop
  | object {steps : Nat} {properties : List Property} {name : Option String} :
      IsObjectLikeWithin arena steps (.object properties name)
  | intersection {steps : Nat} {members : List TypeNode} :
      IsObjectLikeWithin arena steps (.intersection members)
  | record {steps : Nat} {key value : Option TypeNode} :
      IsObjectLikeWithin arena steps (.record key value)
  | union {steps : Nat} {members : List TypeNode} (filled : members ≠ [])
      (all : ∀ member ∈ members, IsObjectLikeWithin arena steps member) :
      IsObjectLikeWithin arena steps (.union members)
  | undeclared {steps : Nat} {name : String} (missing : arena.get? name = none) :
      IsObjectLikeWithin arena steps (.reference name)
  | declared {steps : Nat} {name : String} {target : Declaration}
      (found : arena.get? name = some target) (like : IsObjectLikeWithin arena steps target.type) :
      IsObjectLikeWithin arena (steps + 1) (.reference name)

theorem IsObjectLikeWithin.mono {steps more : Nat} {node : TypeNode}
    (like : IsObjectLikeWithin arena steps node) (atMost : steps ≤ more) :
    IsObjectLikeWithin arena more node := by
  induction like generalizing more with
  | object => exact .object
  | intersection => exact .intersection
  | record => exact .record
  | union filled _ inductionHypothesis =>
      exact .union filled (fun member there => inductionHypothesis member there atMost)
  | undeclared missing => exact .undeclared missing
  | @declared steps _ _ found _ inductionHypothesis =>
      obtain ⟨rest, rfl⟩ := Nat.exists_eq_add_of_le' (Nat.le_trans (Nat.le_add_left 1 steps) atMost)
      exact .declared found (inductionHypothesis (Nat.le_of_succ_le_succ atMost))

theorem exists_steps_of_forall : ∀ {members : List TypeNode},
    (∀ member ∈ members, ∃ steps, IsObjectLikeWithin arena steps member) →
      ∃ steps, ∀ member ∈ members, IsObjectLikeWithin arena steps member
  | [], _ => ⟨0, List.forall_mem_nil _⟩
  | first :: rest, all => by
      rw [List.forall_mem_cons] at all
      obtain ⟨⟨steps, like⟩, others⟩ := all
      obtain ⟨more, likeOthers⟩ := exists_steps_of_forall others
      refine ⟨max steps more, ?_⟩
      rw [List.forall_mem_cons]
      exact ⟨like.mono (Nat.le_max_left ..),
        fun member there => (likeOthers member there).mono (Nat.le_max_right ..)⟩

theorem IsObjectLike.exists_steps {node : TypeNode} (like : node.IsObjectLike arena) :
    ∃ steps, IsObjectLikeWithin arena steps node := by
  induction like with
  | object => exact ⟨0, .object⟩
  | intersection => exact ⟨0, .intersection⟩
  | record => exact ⟨0, .record⟩
  | union filled _ inductionHypothesis =>
      obtain ⟨steps, all⟩ := exists_steps_of_forall inductionHypothesis
      exact ⟨steps, .union filled all⟩
  | undeclared missing => exact ⟨0, .undeclared missing⟩
  | declared found _ inductionHypothesis =>
      obtain ⟨steps, like⟩ := inductionHypothesis
      exact ⟨steps + 1, .declared found like⟩

theorem allMergeWith_of_forall {reference : String → Bool} : ∀ {members : List TypeNode},
    (∀ member ∈ members, member.mergesWith reference = true) →
      allMergeWith reference members = true
  | [], _ => by rw [allMergeWith]
  | first :: rest, all => by
      rw [List.forall_mem_cons] at all
      rw [allMergeWith, Bool.and_eq_true]
      exact ⟨all.1, allMergeWith_of_forall all.2⟩

theorem mergesWith_of_within {reference : String → Bool} {steps : Nat} {node : TypeNode}
    (complete : ∀ name, IsObjectLikeWithin arena steps (.reference name) → reference name = true)
    (like : IsObjectLikeWithin arena steps node) : node.mergesWith reference = true := by
  induction like with
  | object | intersection | record => rw [mergesWith]
  | union filled _ inductionHypothesis =>
      rw [mergesWith, Bool.and_eq_true, Bool.not_eq_true', List.isEmpty_eq_false_iff]
      exact ⟨filled,
        allMergeWith_of_forall (fun member there => inductionHypothesis member there complete)⟩
  | undeclared missing =>
      rw [mergesWith]
      exact complete _ (.undeclared missing)
  | declared found like _ =>
      rw [mergesWith]
      exact complete _ (.declared found like)

/-- The search answers yes for a name that comes down to objects within some steps if no visited name
does within as many. -/
theorem referenceMerges_of_within {steps : Nat} {unvisited : List String} {name : String}
    (fresh : ∀ visited, arena.get? visited ≠ none → visited ∉ unvisited →
      ¬ IsObjectLikeWithin arena steps (.reference visited))
    (like : IsObjectLikeWithin arena steps (.reference name)) :
    referenceMerges arena unvisited name = true := by
  classical
  induction steps using Nat.strong_induction_on generalizing unvisited name with
  | _ steps inductionHypothesis =>
    have within : ∃ few, IsObjectLikeWithin arena few (.reference name) := ⟨steps, like⟩
    have atMost : Nat.find within ≤ steps := Nat.find_min' within like
    have shortest := Nat.find_spec within
    generalize least : Nat.find within = few at shortest atMost
    rw [referenceMerges]
    cases shortest with
    | undeclared missing =>
        split
        · rfl
        · rename_i found
          rw [missing] at found
          cases found
    | @declared fewer _ target found likeTarget =>
        split
        · rfl
        · rename_i other foundOther
          obtain rfl : other = target := Option.some.inj (foundOther.symm.trans found)
          -- On the shortest way no name comes again, so what is followed is always new.
          have there : name ∈ unvisited := by
            by_contra visited
            exact fresh name (by simp [found]) visited like
          rw [dif_pos there]
          refine mergesWith_of_within ?_ likeTarget
          intro next likeNext
          refine inductionHypothesis fewer atMost ?_ likeNext
          intro visited declared notLeft again
          by_cases same : visited = name
          · subst same
            exact Nat.find_min within (by omega) again
          · have before : visited ∉ unvisited :=
              fun there => notLeft ((List.mem_erase_of_ne same).mpr there)
            exact fresh visited declared before (again.mono (by omega))

/-- The items of a type merge exactly if the type comes down to objects, intersections, records and
undeclared names. -/
theorem merges_iff {node : TypeNode} : node.merges arena = true ↔ node.IsObjectLike arena := by
  constructor
  · intro merging
    have sound : ∀ name, referenceMerges arena arena.keys name = true →
        IsObjectLike arena (.reference name) :=
      fun _ => isObjectLike_of_referenceMerges
    exact isObjectLike_of_mergesWith sound node merging
  · intro like
    obtain ⟨steps, within⟩ := like.exists_steps
    have fresh : ∀ visited, arena.get? visited ≠ none → visited ∉ arena.keys →
        ¬ IsObjectLikeWithin arena steps (.reference visited) := by
      intro visited declared missing
      exact absurd (Keyed.get?_eq_none_iff.mpr missing) declared
    exact mergesWith_of_within (fun _ => referenceMerges_of_within fresh) within

end TypeNode

end TypeScaffold
