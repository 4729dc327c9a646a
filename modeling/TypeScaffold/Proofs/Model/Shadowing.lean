import TypeScaffold.Model.Load
import TypeScaffold.Proofs.Model.Ordered

/-!
# Shadowed declarations

Of several declarations with one name the last shadows the others. Without the shadowed declarations
a model has the same declarations by name, the same graph and the same order. Looking up a name by
itself finds the first declaration of the name all the same, and so a shadowed one.
-/

namespace TypeScaffold

namespace Model

/-! ## The last declarations of names -/

/-- The last declaration of a name. -/
def last? (model : Model) (name : String) : Option Declaration :=
  model.declarations.reverse.find? (fun declaration => declaration.name == name)

/-- The model without its shadowed declarations: of each name the last declaration, where the first
one stands. -/
def unshadowed (model : Model) : Model :=
  { model with
    declarations := (model.declarations.map Declaration.name).eraseDups.filterMap model.last? }

theorem last?_eq_some_iff {model : Model} {name : String} {declaration : Declaration} :
    model.last? name = some declaration ↔ declaration.name = name ∧ model.ListsLast declaration := by
  rw [last?, List.find?_eq_some_iff_append, beq_iff_eq]
  apply and_congr_right
  rintro rfl
  constructor
  · intro split
    obtain ⟨after, before, reversed, absent⟩ := split
    refine ⟨before.reverse, after.reverse, ?_, ?_⟩
    · have forwards := congrArg List.reverse reversed
      simpa using forwards
    · intro later member
      simpa using absent later (List.mem_reverse.mp member)
  · intro last
    obtain ⟨before, after, split, absent⟩ := last
    refine ⟨after.reverse, before.reverse, by simp [split], ?_⟩
    intro later member
    simpa using absent later (List.mem_reverse.mp member)

theorem ListsLast.eq {model : Model} {first second : Declaration} (last : model.ListsLast first)
    (lastToo : model.ListsLast second) (named : first.name = second.name) : first = second := by
  have found := last?_eq_some_iff.mpr ⟨named, last⟩
  exact Option.some.inj (found.symm.trans (last?_eq_some_iff.mpr ⟨rfl, lastToo⟩))

theorem ListsLast.mem {model : Model} {declaration : Declaration}
    (last : model.ListsLast declaration) : declaration ∈ model.declarations := by
  obtain ⟨before, after, split, _⟩ := last
  rw [split]
  exact List.mem_append_right before List.mem_cons_self

/-- The last declaration of a name is the one that counts. -/
theorem last?_eq_get?_arena (model : Model) (name : String) :
    model.last? name = model.arena.get? name := by
  apply Option.ext
  intro declaration
  rw [last?_eq_some_iff, get?_arena_eq_some_iff]

/-! ## The model without its shadowed declarations -/

theorem declarations_unshadowed (model : Model) :
    model.unshadowed.declarations = model.arena.map Prod.snd := by
  have names : (model.declarations.map Declaration.name).eraseDups = model.arena.keys := by
    rw [arena, Keyed.keys_ofList, Keyed.keys, List.map_map]
    rfl
  have looksUp : model.last? = fun name => model.arena.get? name :=
    funext model.last?_eq_get?_arena
  rw [unshadowed, names, looksUp, Keyed.filterMap_get?_keys model.nodup_keys_arena]

@[simp]
theorem arena_unshadowed (model : Model) : model.unshadowed.arena = model.arena := by
  have pairs : model.unshadowed.declarations.map (fun listed => (listed.name, listed)) =
      model.arena := by
    rw [declarations_unshadowed, List.map_map]
    exact (List.map_congr_left (fun _ => named_of_mem_arena)).trans (List.map_id model.arena)
  rw [arena, pairs, Keyed.ofList_of_nodup model.nodup_keys_arena]

@[simp]
theorem graph_unshadowed (model : Model) : model.unshadowed.graph = model.graph := by
  rw [graph_eq_mapEntries, arena_unshadowed, ← graph_eq_mapEntries]

@[simp]
theorem ordered_unshadowed (model : Model) : model.unshadowed.ordered = model.ordered := by
  rw [ordered, ordered, graph_unshadowed, arena_unshadowed]

theorem mem_unshadowed {model : Model} {declaration : Declaration} :
    declaration ∈ model.unshadowed.declarations ↔ model.ListsLast declaration := by
  rw [declarations_unshadowed, List.mem_map]
  constructor
  · intro listed
    obtain ⟨entry, member, rfl⟩ := listed
    have found := (Keyed.get?_eq_some_iff model.nodup_keys_arena).mpr member
    exact (get?_arena_eq_some_iff.mp found).2
  · intro last
    have found := get?_arena_eq_some_iff.mpr ⟨rfl, last⟩
    exact ⟨_, Keyed.mem_of_get? found, rfl⟩

/-! ## Looking up a name -/

/-- The model lists the declaration, and no earlier one has its name. -/
def ListsFirst (model : Model) (declaration : Declaration) : Prop :=
  ∃ before after, model.declarations = before ++ declaration :: after ∧
    ∀ earlier ∈ before, earlier.name ≠ declaration.name

/-- The first declaration of a name is found. -/
theorem find_eq_ok_iff {model : Model} {name : String} {declaration : Declaration} :
    model.find name = .ok declaration ↔
      declaration.name = name ∧ model.ListsFirst declaration := by
  have finds : model.find name = .ok declaration ↔
      model.declarations.find? (fun listed => listed.name == name) = some declaration := by
    rw [find]
    cases model.declarations.find? (fun listed => listed.name == name) <;> simp
  rw [finds, List.find?_eq_some_iff_append, beq_iff_eq]
  apply and_congr_right
  rintro rfl
  simp only [ListsFirst, Bool.not_eq_true', beq_eq_false_iff_ne]

theorem exists_find_eq_ok {model : Model} {declaration : Declaration}
    (listed : declaration ∈ model.declarations) :
    ∃ found, model.find declaration.name = .ok found := by
  rw [find]
  split
  · exact ⟨_, rfl⟩
  · rename_i nowhere
    have absent := List.find?_eq_none.mp nowhere declaration listed
    simp at absent

/-- Without the shadowed declarations the last declaration of a name is found. -/
theorem find_unshadowed_eq_ok_iff {model : Model} {name : String} {declaration : Declaration} :
    model.unshadowed.find name = .ok declaration ↔
      declaration.name = name ∧ model.ListsLast declaration := by
  have found {other : Declaration} (finds : model.unshadowed.find name = .ok other) :
      other.name = name ∧ model.ListsLast other := by
    obtain ⟨named, _, _, split, _⟩ := find_eq_ok_iff.mp finds
    exact ⟨named, mem_unshadowed.mp (split ▸ List.mem_append_right _ List.mem_cons_self)⟩
  constructor
  · exact found
  · rintro ⟨rfl, last⟩
    obtain ⟨other, finds⟩ := exists_find_eq_ok (mem_unshadowed.mpr last)
    obtain ⟨named, lastToo⟩ := found finds
    rw [finds, lastToo.eq last named]

/-- A name finds the same without the shadowed declarations exactly if its first declaration is also
its last. -/
theorem finds_alike_unshadowed_iff {model : Model} {name : String} :
    (∀ declaration, model.unshadowed.find name = .ok declaration ↔
        model.find name = .ok declaration) ↔
      ∀ declaration, declaration.name = name → model.ListsFirst declaration →
        model.ListsLast declaration := by
  simp only [find_unshadowed_eq_ok_iff]
  simp only [find_eq_ok_iff]
  constructor
  · intro alike declaration named first
    exact ((alike declaration).mpr ⟨named, first⟩).2
  · intro lasts declaration
    constructor
    · rintro ⟨rfl, last⟩
      refine ⟨rfl, ?_⟩
      obtain ⟨found, finds⟩ := exists_find_eq_ok last.mem
      obtain ⟨named, first⟩ := find_eq_ok_iff.mp finds
      rwa [← (lasts found named first).eq last named]
    · rintro ⟨named, first⟩
      exact ⟨named, lasts declaration named first⟩

end Model

end TypeScaffold
