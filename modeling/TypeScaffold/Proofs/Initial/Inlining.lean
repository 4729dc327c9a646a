import TypeScaffold.Proofs.Initial.Constants

/-!
# Inlined declarations

A declaration without a store is followed by its type. A constant comes to be mentioned by a path of
such declarations, each consulted by the type of the one before, and a declaration without a store is
mentioned only if such a path leads from it back to it. Nothing of this depends on the order in which
the declarations are listed.
-/

namespace TypeScaffold

open Relation

/-- The name stands for a declaration without a store, whose type consults the other name. -/
def Inlines (arena : Keyed Declaration) (name consulted : String) : Prop :=
  ∃ declaration, arena.get? name = some declaration ∧ declaration.hasStore = false ∧
    consulted ∈ declaration.type.consulted

namespace Initial

section Following

variable {arena : Keyed Declaration}

/-- A name that may be followed stands for the value of its declared type. -/
theorem ofReference_followed {unvisited : List String} {name : String} {target : Declaration}
    (found : arena.get? name = some target) (storeless : target.hasStore = false)
    (fresh : name ∈ unvisited) :
    ofReference arena unvisited name =
      ofNode (ofReference arena (unvisited.erase name)) target.type := by
  rw [ofReference]
  split
  · rename_i missing
    rw [missing] at found
    cases found
  · rename_i other there
    obtain rfl : other = target := Option.some.inj (there.symm.trans found)
    rw [if_neg (by simp [storeless]), dif_pos fresh]

/-- The constants that a followed name mentions are those of the names its type consults. -/
theorem constants_ofReference_followed {unvisited : List String} {name : String}
    {target : Declaration} (found : arena.get? name = some target)
    (storeless : target.hasStore = false) (fresh : name ∈ unvisited) :
    (ofReference arena unvisited name).constants =
      target.type.consulted.flatMap (fun consulted =>
        (ofReference arena (unvisited.erase name) consulted).constants) := by
  rw [ofReference_followed found storeless fresh, constants_ofNode]

theorem ofReference_settled {unvisited : List String} {name : String}
    (settled : ∀ target, arena.get? name = some target → target.hasStore = false →
      name ∉ unvisited) :
    ofReference arena unvisited name = .constant name := by
  rw [ofReference]
  split
  · rfl
  · rename_i target found
    by_cases stored : target.hasStore = true
    · rw [if_pos stored]
    · rw [if_neg stored, dif_neg (settled target found (by simpa using stored))]

/-- A mentioned name ends a path of inlined declarations. If it has no store, it has been visited
before, or such a path leads from it back to it. -/
theorem path_of_mem_constants_ofReference {unvisited : List String} {name mentioned : String}
    (member : mentioned ∈ (ofReference arena unvisited name).constants) :
    ReflTransGen (Inlines arena) name mentioned ∧
      ∀ target, arena.get? mentioned = some target → target.hasStore = false →
        mentioned ∉ unvisited ∨ TransGen (Inlines arena) mentioned mentioned := by
  by_cases followed : ∃ target, arena.get? name = some target ∧ target.hasStore = false ∧
      name ∈ unvisited
  -- The names that may still be followed get fewer with each step of the path.
  · obtain ⟨target, found, storeless, fresh⟩ := followed
    rw [constants_ofReference_followed found storeless fresh, List.mem_flatMap] at member
    obtain ⟨consulted, consultedMember, later⟩ := member
    have step : Inlines arena name consulted := ⟨target, found, storeless, consultedMember⟩
    obtain ⟨path, ending⟩ := path_of_mem_constants_ofReference later
    refine ⟨ReflTransGen.head step path, ?_⟩
    intro last lastFound lastStoreless
    rcases ending last lastFound lastStoreless with visited | circle
    · by_cases same : mentioned = name
      · subst same
        exact Or.inr (TransGen.head' step path)
      · exact Or.inl (fun there => visited ((List.mem_erase_of_ne same).mpr there))
    · exact Or.inr circle
  · have settled : ∀ target, arena.get? name = some target → target.hasStore = false →
        name ∉ unvisited :=
      fun target found storeless there => followed ⟨target, found, storeless, there⟩
    rw [ofReference_settled settled] at member
    obtain rfl := List.mem_singleton.mp member
    exact ⟨ReflTransGen.refl, fun target found storeless =>
      Or.inl (settled target found storeless)⟩
termination_by unvisited.length
decreasing_by
  have shorter := List.length_erase_of_mem fresh
  have positive := List.length_pos_of_mem fresh
  omega

/-- Every name that the value of a type mentions is reached by a path of inlined declarations from
one that the type consults; a declared name without a store leads back to itself. -/
theorem path_of_mem_constants_ofType {node : TypeNode} {mentioned : String}
    (member : mentioned ∈ (ofType arena node).constants) :
    (∃ consulted ∈ node.consulted, ReflTransGen (Inlines arena) consulted mentioned) ∧
      ∀ target, arena.get? mentioned = some target → target.hasStore = false →
        TransGen (Inlines arena) mentioned mentioned := by
  rw [ofType, constants_ofNode, List.mem_flatMap] at member
  obtain ⟨consulted, consultedMember, there⟩ := member
  obtain ⟨path, ending⟩ := path_of_mem_constants_ofReference there
  refine ⟨⟨consulted, consultedMember, path⟩, ?_⟩
  intro target found storeless
  rcases ending target found storeless with undeclared | circle
  · exact absurd (List.mem_map_of_mem (Keyed.mem_of_get? found)) undeclared
  · exact circle

end Following

/-! ## Arenas that start alike -/

end Initial

/-- What an initial value takes from a declaration: whether it has a store, and the value of its type
given that of references. -/
def Declaration.start (declaration : Declaration) : Bool × ((String → Initial) → Initial) :=
  (declaration.hasStore, fun reference => Initial.ofNode reference declaration.type)

namespace Initial

section Alike

variable {arena others : Keyed Declaration}
  (alike : ∀ name,
    (arena.get? name).map Declaration.start = (others.get? name).map Declaration.start)

include alike

theorem ofReference_congr {unvisited remaining : List String}
    (permutation : unvisited.Perm remaining) (name : String) :
    ofReference arena unvisited name = ofReference others remaining name := by
  have declared := alike name
  rw [ofReference, ofReference]
  cases first : arena.get? name with
  | none =>
      rw [first, Option.map_none, eq_comm, Option.map_eq_none_iff] at declared
      rw [declared]
  | some target =>
      rw [first, Option.map_some, eq_comm, Option.map_eq_some_iff] at declared
      obtain ⟨other, second, equal⟩ := declared
      obtain ⟨stored, value⟩ := Prod.ext_iff.mp equal
      simp only [Declaration.start] at stored value
      rw [second]
      simp only [stored]
      by_cases fresh : name ∈ unvisited
      -- A followed name is struck from both lists, and what is left of them is a permutation again.
      · have followed : ofReference arena (unvisited.erase name) =
            ofReference others (remaining.erase name) :=
          funext (ofReference_congr (permutation.erase name))
        rw [dif_pos fresh, dif_pos (permutation.mem_iff.mp fresh), followed,
          congrFun value (ofReference others (remaining.erase name))]
      · rw [dif_neg fresh, dif_neg (fun there => fresh (permutation.mem_iff.mpr there))]
termination_by unvisited.length
decreasing_by
  have shorter := List.length_erase_of_mem fresh
  have positive := List.length_pos_of_mem fresh
  omega

theorem ofType_congr (keys : arena.keys.Perm others.keys) (node : TypeNode) :
    ofType arena node = ofType others node := by
  rw [ofType, ofType, funext (ofReference_congr alike keys)]

end Alike

theorem ofType_rearranges {other model : Model} (rearranged : other.Rearranges model)
    (node : TypeNode) : ofType other.arena node = ofType model.arena node := by
  apply ofType_congr
  · intro name
    rw [rearranged.get?_arena]
  · exact List.Perm.map Prod.fst rearranged

end Initial

end TypeScaffold
