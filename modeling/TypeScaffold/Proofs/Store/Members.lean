import TypeScaffold.Proofs.Initial.Inlining
import TypeScaffold.Store.Basic

/-!
# Which declarations have a store

A declaration has a store if it is an exported object and no two members of the store would have one
name. What its initial state mentions does not depend on the order of the declarations.
-/

namespace TypeScaffold

open Relation

/-- The fields that a store of the declaration has: the properties that are no functions. -/
def Declaration.fields (declaration : Declaration) : List FieldSource :=
  fieldSources (declaration.type.properties?.getD [])

/-- The names that a store of the declaration defines. -/
def Declaration.members (declaration : Declaration) : List String :=
  storeMembers declaration.name (declaration.fields.map FieldSource.resolved)

theorem Declaration.hasStore_iff {declaration : Declaration} :
    declaration.hasStore = true ↔
      declaration.exported = true ∧
        ∃ properties typeName, declaration.type = .object properties typeName := by
  rw [hasStore, Bool.and_eq_true, isObjectRoot]
  cases declaration.type <;> simp [TypeNode.isObject]

/-- The constants that the initial state of a store mentions. -/
def Store.constants (store : Store) : List String :=
  store.defaults.flatMap (fun entry => entry.2.constants)

namespace Store

/-- A store is made exactly of the exported objects whose members have distinct names. -/
theorem result_build_eq_some_iff {context : Context} {declaration : Declaration} {store : Store} :
    (build context declaration).result = some store ↔
      declaration.hasStore = true ∧ declaration.members.Nodup ∧
        store = ofFields declaration.name context.arena declaration.fields := by
  obtain ⟨name, type, dependencies, exported⟩ := declaration
  cases exported with
  | false => simp [build, Outcome.skip, Declaration.hasStore]
  | true =>
      cases type with
      | object properties typeName =>
          let members := storeMembers name ((fieldSources properties).map FieldSource.resolved)
          have repeats : NameSet.repeated members = [] ↔ members.Nodup :=
            NameSet.repeated_eq_nil_iff
          unfold build
          simp only [Bool.not_true, Bool.false_eq_true, if_false]
          split
          · rename_i unrepeated
            have distinct := repeats.mp unrepeated
            simp only [Option.some.injEq]
            constructor
            · intro equal
              exact ⟨rfl, distinct, equal.symm⟩
            · intro made
              exact made.2.2.symm
          · rename_i repeated
            have clash : ¬ members.Nodup := fun distinct => repeated (repeats.mpr distinct)
            constructor
            · intro equal
              cases equal
            · intro made
              exact absurd made.2.1 clash
      | _ =>
          simp [build, Outcome.skip, Declaration.hasStore, Declaration.isObjectRoot,
            TypeNode.isObject]

/-! ## Constants in initial states -/

theorem exists_field_of_mem_constants {name mentioned : String} {arena : Keyed Declaration}
    {fields : List FieldSource} (member : mentioned ∈ (ofFields name arena fields).constants) :
    ∃ field ∈ fields, mentioned ∈ (Initial.ofType arena field.property.type).constants := by
  rw [constants, ofFields, List.mem_flatMap] at member
  obtain ⟨entry, entryMember, there⟩ := member
  obtain ⟨field, fieldMember, rfl⟩ := List.mem_map.mp entryMember
  refine ⟨field, fieldMember, ?_⟩
  rw [Initial.ofField] at there
  split at there
  · cases there
  · exact there

/-- A mentioned name is reached by a path of inlined declarations from one to which the declared type
refers; a declared name without a store leads back to itself. -/
theorem path_of_mem_constants {arena : Keyed Declaration} {declaration : Declaration}
    {mentioned : String}
    (member : mentioned ∈ (ofFields declaration.name arena declaration.fields).constants) :
    (∃ start ∈ declaration.type.references, ReflTransGen (Inlines arena) start mentioned) ∧
      ∀ target, arena.get? mentioned = some target → target.hasStore = false →
        TransGen (Inlines arena) mentioned mentioned := by
  obtain ⟨field, fieldMember, there⟩ := exists_field_of_mem_constants member
  obtain ⟨⟨start, startMember, path⟩, ending⟩ := Initial.path_of_mem_constants_ofType there
  refine ⟨⟨start, ?_, path⟩, ending⟩
  obtain ⟨name, type, dependencies, exported⟩ := declaration
  cases type with
  | object properties typeName =>
      have source : field ∈ properties.map (fun property => ⟨property, property.resolve⟩) :=
        List.mem_of_mem_filter fieldMember
      obtain ⟨property, propertyMember, rfl⟩ := List.mem_map.mp source
      exact TypeNode.mem_referencesOfProperties propertyMember
        (TypeNode.consulted_subset_references property.type startMember)
  | _ => cases fieldMember

theorem defaults_ofFields_rearranges {other model : Model} (rearranged : other.Rearranges model)
    (name : String) (fields : List FieldSource) :
    (ofFields name other.arena fields).defaults = (ofFields name model.arena fields).defaults := by
  simp only [ofFields, Initial.ofField, Initial.ofType_rearranges rearranged]

end Store

end TypeScaffold
