import TypeScaffold.Proofs.Keyed
import TypeScaffold.Proofs.Store.Members
import TypeScaffold.Proofs.Text.Endings

/-!
# The parts of a store for one field

A store has a slot, an initial value and a setter for each of its fields. Its names are distinct, so
each of them is found by the name of the field.
-/

namespace TypeScaffold

theorem mem_fieldSources {properties : List Property} {field : FieldSource} :
    field ∈ fieldSources properties ↔
      ∃ property ∈ properties, property.resolve.node.isFunction = false ∧
        field = ⟨property, property.resolve⟩ := by
  rw [fieldSources, List.mem_filter, List.mem_map]
  constructor
  · rintro ⟨⟨property, member, rfl⟩, kept⟩
    exact ⟨property, member, Bool.not_eq_true' _ |>.mp kept, rfl⟩
  · rintro ⟨property, member, kept, rfl⟩
    exact ⟨⟨property, member, rfl⟩, Bool.not_eq_true' _ |>.mpr kept⟩

theorem Declaration.resolved_of_mem_fields {declaration : Declaration} {field : FieldSource}
    (member : field ∈ declaration.fields) : field.resolved = field.property.resolve := by
  obtain ⟨property, _, _, rfl⟩ := mem_fieldSources.mp member
  rfl

/-- The names of the fields are those of the properties that they come from. -/
theorem Declaration.names_fields (declaration : Declaration) :
    declaration.fields.map (fun field => field.property.name) =
      (declaration.fields.map FieldSource.resolved).map ResolvedProperty.name := by
  rw [List.map_map]
  apply List.map_congr_left
  intro field member
  rw [Function.comp_apply, resolved_of_mem_fields member]
  rfl

namespace Store

theorem members_fieldSignatures (name : String) (arena : Keyed Declaration)
    (field : ResolvedProperty) :
    (fieldSignatures name arena field).map Signature.member = actionMembers field := by
  obtain ⟨fieldName, node, optional, nullable⟩ := field
  cases node <;> rfl

theorem members_fieldMethods (arena : Keyed Declaration) (field : ResolvedProperty) :
    (fieldMethods arena field).map Method.member = actionMembers field := by
  obtain ⟨fieldName, node, optional, nullable⟩ := field
  cases node <;> rfl

def actionNames (name : String) (fields : List ResolvedProperty) : List String :=
  Naming.setAll name :: Naming.reset name :: fields.flatMap actionMembers

/-- The type of the value that the setter of a field takes. -/
def setterValue (name : String) (field : ResolvedProperty) : String :=
  Naming.state name ++ "['" ++ field.name ++ "']" ++ (if field.optional then " | undefined" else "")

variable (name : String) (arena : Keyed Declaration) (fields : List FieldSource)

theorem endsWith_setterValue_iff (field : ResolvedProperty) :
    (setterValue name field).endsWith " | undefined" = true ↔ field.optional = true := by
  rw [setterValue]
  cases field.optional with
  | true => exact iff_of_true (Text.endsWith_append _ _) rfl
  | false =>
      refine iff_of_false ?_ Bool.false_ne_true
      rw [if_neg Bool.false_ne_true, String.append_empty]
      exact Text.not_endsWith_append (by decide) (by decide)

theorem members_signatures :
    (ofFields name arena fields).signatures.map Signature.member =
      actionNames name (fields.map FieldSource.resolved) := by
  simp only [ofFields, actionNames, List.map_cons, List.map_flatMap, List.flatMap_map,
    members_fieldSignatures]

theorem members_methods :
    (ofFields name arena fields).methods.map Method.member =
      actionNames name (fields.map FieldSource.resolved) := by
  simp only [ofFields, actionNames, List.map_cons, List.map_flatMap, List.flatMap_map,
    members_fieldMethods]

theorem names_slots :
    (ofFields name arena fields).slots.map SlotOf.name =
      fields.map (fun field => field.property.name) := by
  rw [ofFields, List.map_map]
  rfl

theorem names_defaults :
    (ofFields name arena fields).defaults.map Prod.fst =
      fields.map (fun field => field.property.name) := by
  rw [ofFields, List.map_map]
  rfl

end Store

/-! ## What stands under the name of a field -/

section Distinct

variable {declaration : Declaration} (distinct : declaration.members.Nodup)
  (arena : Keyed Declaration)

include distinct

theorem Declaration.nodup_names_fields :
    (declaration.fields.map (fun field => field.property.name)).Nodup := by
  rw [Declaration.names_fields]
  exact (List.nodup_append.mp distinct).1

theorem Declaration.nodup_actionNames :
    (Store.actionNames declaration.name (declaration.fields.map FieldSource.resolved)).Nodup :=
  (List.nodup_append.mp distinct).2.1

namespace Store

variable {field : FieldSource} (member : field ∈ declaration.fields)

include member

theorem slots_named :
    (ofFields declaration.name arena declaration.fields).slots.filter
        (fun slot => slot.name == field.property.name) =
      [Slot.ofProperty arena field.property] := by
  have names := names_slots declaration.name arena declaration.fields
  exact Keyed.filter_key_eq_singleton (names ▸ Declaration.nodup_names_fields distinct)
    (List.mem_map_of_mem member)

theorem defaults_named :
    (ofFields declaration.name arena declaration.fields).defaults.filter
        (fun entry => entry.1 == field.property.name) =
      [(field.property.name,
        Initial.ofField arena field.resolved.optional (some field.property.type))] := by
  have names := names_defaults declaration.name arena declaration.fields
  exact Keyed.filter_key_eq_singleton (names ▸ Declaration.nodup_names_fields distinct)
    (List.mem_map_of_mem member)

theorem setters_named :
    (ofFields declaration.name arena declaration.fields).signatures.filter
        (fun signature => signature.member == setMember field.resolved.name) =
      [⟨setMember field.resolved.name,
        "(value: " ++ setterValue declaration.name field.resolved ++ ") => void"⟩] := by
  have names := members_signatures declaration.name arena declaration.fields
  have setter : ⟨setMember field.resolved.name,
      "(value: " ++ setterValue declaration.name field.resolved ++ ") => void"⟩ ∈
        declaration.fields.flatMap
          (fun field => fieldSignatures declaration.name arena field.resolved) :=
    List.mem_flatMap_of_mem member List.mem_cons_self
  exact Keyed.filter_key_eq_singleton (names ▸ Declaration.nodup_actionNames distinct)
    (List.mem_cons_of_mem _ (List.mem_cons_of_mem _ setter))

end Store

end Distinct

end TypeScaffold
