import Mathlib.Data.List.Flatten
import Mathlib.Data.List.Perm.Basic
import TypeScaffold.Form.Basic
import TypeScaffold.Proofs.Store.Fields

/-!
# Which declarations have a form

A declaration has a form if it has a store and none of the names that the form takes from the store
is a name of the component itself. The names that are taken are names of the store, each at most
once: for a field that is no array its setter, and for an array three of its actions.
-/

namespace TypeScaffold

/-- The actions on a field that a form uses. -/
def usedActions (field : ResolvedProperty) : List String :=
  if field.node.isArray then arraySelectors field else [setMember field.name]

/-- The names that a form of the declaration takes from its store. -/
def Declaration.selectors (declaration : Declaration) : List String :=
  Form.selectorsFor declaration.name (declaration.fields.map FieldSource.resolved)

theorem usedActions_sublist (field : ResolvedProperty) :
    (usedActions field).Sublist (actionMembers field) := by
  rw [usedActions, actionMembers]
  cases field.node.isArray with
  | false => exact List.Sublist.refl _
  | true =>
      have three : [ArrayAction.append, .removeAt, .updateAt].Sublist ArrayAction.all := by decide
      exact (three.map (ArrayAction.member field.name)).cons (setMember field.name)

/-- The scalar fields and the arrays together use the actions of all fields. -/
private theorem perm_usedActions (fields : List ResolvedProperty) :
    ((fields.filter (fun field => !field.node.isArray)).map (fun field => setMember field.name) ++
      (fields.filter (fun field => field.node.isArray)).flatMap arraySelectors).Perm
        (fields.flatMap usedActions) := by
  -- Each of the two lists is that of the used actions, for the fields that it is made from.
  have scalars :
      (fields.filter (fun field => !field.node.isArray)).map (fun field => setMember field.name) =
        (fields.filter (fun field => !field.node.isArray)).flatMap usedActions := by
    rw [← List.flatMap_pure_eq_map]
    apply List.flatMap_congr
    intro field member
    have scalar : field.node.isArray = false := by simpa using (List.mem_filter.mp member).2
    rw [usedActions, scalar]
    rfl
  have arrays :
      (fields.filter (fun field => field.node.isArray)).flatMap arraySelectors =
        (fields.filter (fun field => field.node.isArray)).flatMap usedActions := by
    apply List.flatMap_congr
    intro field member
    rw [usedActions, if_pos (List.mem_filter.mp member).2]
  rw [scalars, arrays, ← List.flatMap_append]
  apply List.Perm.flatMap_right
  exact List.perm_append_comm.trans (List.filter_append_perm (fun field => field.node.isArray) fields)

/-- The names that a form takes are the fields, the reset, and the actions that it uses. -/
theorem Declaration.perm_selectors (declaration : Declaration) :
    declaration.selectors.Perm
      ((declaration.fields.map FieldSource.resolved).map ResolvedProperty.name ++
        Naming.reset declaration.name ::
          (declaration.fields.map FieldSource.resolved).flatMap usedActions) := by
  let fields := declaration.fields.map FieldSource.resolved
  have order := (List.perm_append_singleton (Naming.reset declaration.name) _).trans
    ((perm_usedActions fields).cons (Naming.reset declaration.name))
  simpa only [selectors, Form.selectorsFor, List.append_assoc]
    using order.append_left (fields.map ResolvedProperty.name)

theorem Declaration.mem_selectors {declaration : Declaration} {name : String} :
    name ∈ declaration.selectors ↔
      (∃ field ∈ declaration.fields, field.resolved.name = name) ∨
        name = Naming.reset declaration.name ∨
          ∃ field ∈ declaration.fields, name ∈ usedActions field.resolved := by
  rw [declaration.perm_selectors.mem_iff, List.mem_append, List.mem_cons, List.map_map,
    List.flatMap_map, List.mem_map, List.mem_flatMap]
  rfl

/-- A form takes names of the store only, and each at most as often as the store has it. -/
theorem Declaration.selectors_subperm (declaration : Declaration) :
    declaration.selectors.Subperm declaration.members := by
  let fields := declaration.fields.map FieldSource.resolved
  have used : (fields.flatMap usedActions).Sublist (fields.flatMap actionMembers) :=
    List.Sublist.flatMap_right fields (fun field _ => usedActions_sublist field)
  have taken : (Naming.reset declaration.name :: fields.flatMap usedActions).Sublist
      (Store.actionNames declaration.name fields) :=
    (used.cons_cons _).cons _
  exact ⟨_, declaration.perm_selectors.symm, taken.append_left _⟩

theorem Declaration.nodup_selectors {declaration : Declaration}
    (distinct : declaration.members.Nodup) : declaration.selectors.Nodup := by
  obtain ⟨names, permutation, sublist⟩ := declaration.selectors_subperm
  exact permutation.nodup_iff.mp (sublist.nodup distinct)

namespace Form

/-- A form is made exactly of the declarations that have a store if no name that it takes from the
store is a name of the component. -/
theorem result_build_eq_some_iff {context : Context} {declaration : Declaration} {form : Form} :
    (build context declaration).result = some form ↔
      declaration.hasStore = true ∧ declaration.members.Nodup ∧
        (∀ name ∈ declaration.selectors, name ∉ formLocals) ∧
        form = ofFields context declaration.name
          (declaration.fields.map FieldSource.resolved) := by
  obtain ⟨name, type, dependencies, exported⟩ := declaration
  cases exported with
  | false => simp [build, Outcome.skip, Declaration.hasStore]
  | true =>
      cases type with
      | object properties typeName =>
          let fields := (fieldSources properties).map FieldSource.resolved
          have repeats : NameSet.repeated (storeMembers name fields) = [] ↔
              (storeMembers name fields).Nodup :=
            NameSet.repeated_eq_nil_iff
          have shadows : (selectorsFor name fields).filter formLocals.contains = [] ↔
              ∀ selector ∈ selectorsFor name fields, selector ∉ formLocals := by
            simp [List.filter_eq_nil_iff]
          unfold build
          simp only [Bool.not_true, Bool.false_eq_true, if_false]
          split
          · rename_i unrepeated
            have distinct := repeats.mp unrepeated
            split
            · rename_i unshadowed
              have apart := shadows.mp unshadowed
              simp only [Option.some.injEq]
              constructor
              · intro equal
                exact ⟨rfl, distinct, apart, equal.symm⟩
              · intro made
                exact made.2.2.2.symm
            · rename_i shadowed
              constructor
              · intro equal
                cases equal
              · intro made
                exact absurd (shadows.mpr made.2.2.1) shadowed
          · rename_i repeated
            constructor
            · intro equal
              cases equal
            · intro made
              exact absurd (repeats.mpr made.2.1) repeated
      | _ =>
          simp [build, Outcome.skip, Declaration.hasStore, Declaration.isObjectRoot,
            TypeNode.isObject]

end Form

end TypeScaffold
