import TypeScaffold.Proofs.Initial.Inhabitants
import TypeScaffold.Proofs.Initial.Parts

/-!
# Literals in initial values

An initial value writes literals of its type and of the declared types that it follows, no others. So
it writes no number that is not finite where none is among them.
-/

namespace TypeScaffold

namespace Initial

theorem mem_literalsOfEntries_iff {value : Scalar} {entries : List (String × Initial)} :
    value ∈ literalsOfEntries entries ↔ ∃ entry ∈ entries, value ∈ entry.2.literals := by
  induction entries with
  | nil => simp [literalsOfEntries]
  | cons entry rest inductionHypothesis =>
      rw [literalsOfEntries, List.mem_append, inductionHypothesis, List.exists_mem_cons_iff]

/-- Putting entries into a table keeps no literal that they did not have. -/
theorem mem_literalsOfEntries_of_ofList {value : Scalar} {entries : List (String × Initial)}
    (listed : value ∈ literalsOfEntries (Keyed.ofList entries)) :
    value ∈ literalsOfEntries entries := by
  obtain ⟨entry, member, inEntry⟩ := mem_literalsOfEntries_iff.mp listed
  exact mem_literalsOfEntries_iff.mpr ⟨entry, Keyed.mem_of_mem_ofList member, inEntry⟩

theorem literals_ofPrimitive (name : String) : (ofPrimitive name).literals = [] := by
  unfold ofPrimitive
  split <;> rfl

section Synthesis

variable {reference : String → Initial}

mutual

/-- An initial value has literals of its type or of a reference. -/
theorem mem_literals_of_ofNode {value : Scalar} : ∀ {node : TypeNode},
    value ∈ (ofNode reference node).literals →
      value ∈ node.literals ∨ ∃ name, value ∈ (reference name).literals
  | .primitive name, listed => by
      rw [ofNode, literals_ofPrimitive] at listed
      cases listed
  | .literal _, listed => Or.inl listed
  | .array _, listed => nomatch listed
  | .tuple elements, listed => mem_literals_of_ofNodes listed
  | .union members, listed => mem_literals_of_ofFirstPresent listed
  | .intersection members, listed => by
      rw [ofNode] at listed
      split at listed
      · exact mem_literals_of_ofObjects (mem_literalsOfEntries_of_ofList listed)
      · cases listed
  | .object properties _, listed => mem_literals_of_ofProperties listed
  | .reference name, listed => Or.inr ⟨name, listed⟩
  | .enumeration [] _, listed => nomatch listed
  | .enumeration (member :: _) _, listed =>
      Or.inl (List.mem_singleton.mp listed ▸ List.mem_cons_self)
  | .record _ _, listed => nomatch listed
  | .function, listed => nomatch listed
  | .unknown _, listed => nomatch listed

theorem mem_literals_of_ofNodes {value : Scalar} : ∀ {nodes : List TypeNode},
    value ∈ literalsOfAll (ofNodes reference nodes) →
      value ∈ TypeNode.literalsOfAll nodes ∨ ∃ name, value ∈ (reference name).literals
  | [], listed => nomatch listed
  | node :: rest, listed => by
      rw [ofNodes, literalsOfAll, List.mem_append] at listed
      rw [TypeNode.literalsOfAll, List.mem_append]
      rcases listed with here | later
      · exact (mem_literals_of_ofNode here).imp Or.inl id
      · exact (mem_literals_of_ofNodes later).imp Or.inr id

theorem mem_literals_of_ofFirstPresent {value : Scalar} : ∀ {members : List TypeNode},
    value ∈ (ofFirstPresent reference members).literals →
      value ∈ TypeNode.literalsOfAll members ∨ ∃ name, value ∈ (reference name).literals
  | [], listed => nomatch listed
  | node :: rest, listed => by
      rw [ofFirstPresent] at listed
      rw [TypeNode.literalsOfAll, List.mem_append]
      split at listed
      · exact (mem_literals_of_ofFirstPresent listed).imp Or.inr id
      · exact (mem_literals_of_ofNode listed).imp Or.inl id

theorem mem_literals_of_ofProperties {value : Scalar} : ∀ {properties : List Property},
    value ∈ literalsOfEntries (ofProperties reference properties) →
      value ∈ TypeNode.literalsOfProperties properties ∨
        ∃ name, value ∈ (reference name).literals
  | [], listed => nomatch listed
  | ⟨name, type, optional⟩ :: rest, listed => by
      rw [ofProperties, literalsOfEntries, List.mem_append] at listed
      rw [TypeNode.literalsOfProperties, List.mem_append]
      rcases listed with here | later
      · split at here
        · cases here
        · exact (mem_literals_of_ofNode here).imp Or.inl id
      · exact (mem_literals_of_ofProperties later).imp Or.inr id

theorem mem_literals_of_ofObjects {value : Scalar} : ∀ {nodes : List TypeNode},
    value ∈ literalsOfEntries (ofObjects reference nodes) →
      value ∈ TypeNode.literalsOfAll nodes ∨ ∃ name, value ∈ (reference name).literals
  | [], listed => nomatch listed
  | node :: rest, listed => by
      rw [TypeNode.literalsOfAll, List.mem_append]
      cases node with
      | object properties name =>
          rw [ofObjects, literalsOfEntries_append, List.mem_append] at listed
          rcases listed with here | later
          · exact (mem_literals_of_ofProperties here).imp Or.inl id
          · exact (mem_literals_of_ofObjects later).imp Or.inr id
      | _ =>
          change value ∈ literalsOfEntries (ofObjects reference rest) at listed
          exact (mem_literals_of_ofObjects listed).imp Or.inr id

end

end Synthesis

section Declarations

variable {arena : Keyed Declaration}

/-- Following the declarations of names writes literals of the declared types. -/
theorem mem_literals_of_ofReference {value : Scalar} (unvisited : List String) (name : String)
    (listed : value ∈ (ofReference arena unvisited name).literals) :
    ∃ other target, arena.get? other = some target ∧ value ∈ target.type.literals := by
  by_cases followed : ∃ target, arena.get? name = some target ∧ target.hasStore = false ∧
      name ∈ unvisited
  · obtain ⟨target, found, storeless, fresh⟩ := followed
    rw [ofReference_followed found storeless fresh] at listed
    rcases mem_literals_of_ofNode listed with here | ⟨other, later⟩
    · exact ⟨name, target, found, here⟩
    · exact mem_literals_of_ofReference (unvisited.erase name) other later
  · rw [ofReference_settled (fun target found storeless there =>
      followed ⟨target, found, storeless, there⟩)] at listed
    cases listed
termination_by unvisited.length
decreasing_by
  have shorter := List.length_erase_of_mem fresh
  have positive := List.length_pos_of_mem fresh
  omega

/-- An initial value has literals of its type or of a declared type. -/
theorem mem_literals_of_ofType {value : Scalar} {node : TypeNode}
    (listed : value ∈ (ofType arena node).literals) :
    value ∈ node.literals ∨
      ∃ name target, arena.get? name = some target ∧ value ∈ target.type.literals :=
  (mem_literals_of_ofNode listed).imp id
    (fun ⟨name, there⟩ => mem_literals_of_ofReference arena.keys name there)

end Declarations

end Initial

end TypeScaffold
