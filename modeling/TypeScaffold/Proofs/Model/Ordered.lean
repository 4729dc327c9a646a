import TypeScaffold.Proofs.Model.Arena

/-!
# What an order lists

Names may be declared several times, may depend on themselves, on each other or on names that are
not declared: a model has an order nevertheless. It lists each declared name once, with the last
declaration of that name.
-/

namespace TypeScaffold.Model

/-- The model lists the declaration, and no later one has its name. -/
def ListsLast (model : Model) (declaration : Declaration) : Prop :=
  ∃ before after, model.declarations = before ++ declaration :: after ∧
    ∀ later ∈ after, later.name ≠ declaration.name

private theorem isLast_iff {name : String} {declaration : Declaration}
    {declarations : List Declaration} :
    Keyed.IsLast name declaration
        (declarations.map (fun listed => (listed.name, listed))) ↔
      declaration.name = name ∧ ∃ before after, declarations = before ++ declaration :: after ∧
        ∀ later ∈ after, later.name ≠ name := by
  constructor
  · intro last
    obtain ⟨pairsBefore, pairsAfter, split, absent⟩ := last
    obtain ⟨before, others, rfl, rfl, tail⟩ := List.map_eq_append_iff.mp split
    obtain ⟨same, after, rfl, equal, rfl⟩ := List.map_eq_cons_iff.mp tail
    cases equal
    refine ⟨rfl, before, after, rfl, ?_⟩
    intro later member same
    apply absent
    rw [Keyed.keys, List.map_map]
    exact List.mem_map.mpr ⟨later, member, same⟩
  · intro last
    obtain ⟨rfl, before, after, rfl, absent⟩ := last
    refine ⟨before.map _, after.map _, by rw [List.map_append, List.map_cons], ?_⟩
    rw [Keyed.keys, List.map_map, List.mem_map]
    intro there
    obtain ⟨later, member, same⟩ := there
    exact absent later member same

/-- The declaration that counts for a name is the last one with that name. -/
theorem get?_arena_eq_some_iff {model : Model} {name : String} {declaration : Declaration} :
    model.arena.get? name = some declaration ↔
      declaration.name = name ∧ model.ListsLast declaration := by
  rw [arena, Keyed.get?_ofList_eq_some_iff, isLast_iff, ListsLast]
  constructor
  · intro last
    obtain ⟨rfl, split⟩ := last
    exact ⟨rfl, split⟩
  · intro last
    obtain ⟨rfl, split⟩ := last
    exact ⟨rfl, split⟩

theorem exists_get?_arena_iff {model : Model} {name : String} :
    (∃ declaration, model.arena.get? name = some declaration) ↔
      name ∈ model.declarations.map Declaration.name := by
  simp only [arena, Keyed.get?_ofList_eq_some_iff, Keyed.exists_isLast_iff]
  rw [Keyed.keys, List.map_map]
  rfl

/-- Without the dependencies between recursive names no path leads back, and the order of a model
lists each declared name once, with its last declaration. -/
theorem ordered_lists_last_declarations (model : Model) :
    (∀ name, ¬ (model.graph.cutAmong model.graph.recursiveNames).LeadsTo name name) ∧
      ∃ declarations, model.ordered = .ok declarations ∧
        (declarations.map Declaration.name).Perm
          (model.declarations.map Declaration.name).eraseDups ∧
        ∀ declaration ∈ declarations, model.ListsLast declaration := by
  refine ⟨model.graph.not_leadsTo_self_withoutCircles, ?_⟩
  obtain ⟨names, declarations, sorted, ordered, named, counted⟩ := model.exists_ordered
  refine ⟨declarations, ordered, ?_, ?_⟩
  · have distinct : names.Nodup := (Graph.extends_of_order sorted).settled.distinct
    rw [named, List.perm_ext_iff_of_nodup distinct (NameSet.nodup_eraseDups _)]
    intro name
    rw [List.mem_eraseDups, mem_of_order sorted, exists_get?_arena_iff]
  · intro declaration member
    exact (get?_arena_eq_some_iff.mp ((counted declaration).mp member)).2

end TypeScaffold.Model
