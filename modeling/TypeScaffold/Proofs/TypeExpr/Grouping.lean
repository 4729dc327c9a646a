import Mathlib.Logic.Function.Iterate
import TypeScaffold.Proofs.Model.Resolve
import TypeScaffold.Proofs.TypeExpr.Readings

/-!
# Arrays of types

The element of an array is put in parentheses if it is a union, an intersection or a function. An
enumeration shows `|` like a union but is not put in parentheses, so an array of one is read as a
union of its values of which the last is an array. Every other array is read as the array of its
element, at any depth.
-/

namespace TypeScaffold

namespace TypeNode

mutual

/-- The names that are written for a type: of primitives, of declarations and of properties. -/
def names : TypeNode → List String
  | .primitive name | .reference name => [name]
  | .literal _ | .enumeration _ _ | .function | .unknown _ => []
  | .array none => []
  | .array (some element) => names element
  | .tuple nodes | .union nodes | .intersection nodes => namesOfAll nodes
  | .object properties _ => namesOfProperties properties
  | .record (some key) (some value) => names key ++ names value
  | .record _ _ => []
termination_by structural node => node

def namesOfAll : List TypeNode → List String
  | [] => []
  | node :: rest => names node ++ namesOfAll rest
termination_by structural nodes => nodes

def namesOfProperties : List Property → List String
  | [] => []
  | ⟨name, type, _⟩ :: rest => name :: (names type ++ namesOfProperties rest)
termination_by structural properties => properties

end

/-- An enumeration of several values, or an array of one at any depth. -/
def isBareChoice : TypeNode → Bool
  | .enumeration members _ => 2 ≤ members.length
  | .array (some element) => isBareChoice element
  | _ => false

end TypeNode

namespace TypeExpr

/-! ## Names -/

section Names

variable (arena : Keyed Declaration)

theorem isName_append {name : String} (isName : IsName name) (ending : String)
    (allowed : ∀ c ∈ ending.toList, isNameChar c = true) : IsName (name ++ ending) := by
  refine ⟨fun empty => isName.1 (String.append_eq_empty_iff.mp empty).1, fun c there => ?_⟩
  rw [String.toList_append, List.mem_append] at there
  rcases there with before | behind
  · exact isName.2 c before
  · exact allowed c behind

theorem isWritable_ofReference {name : String} (isName : IsName name) :
    (ofReference arena name).IsWritable := by
  have state : IsWord (Naming.state name) :=
    isWord_of_isName (isName_append isName "State" (List.all_eq_true.mp (by decide)))
  unfold ofReference
  split
  · exact state
  · by_cases stored : Declaration.hasStore ‹_› = true
    · rw [if_pos stored]
      exact state
    · rw [if_neg stored]
      exact isWord_of_isName isName

theorem isWritable_ofAlternatives {types : List TypeExpr} (writable : AllWritable types) :
    (ofAlternatives types).IsWritable := by
  cases types with
  | nil => exact (by decide : IsWord "never")
  | cons type rest => exact ⟨List.cons_ne_nil type rest, writable⟩

theorem allWritable_literals (members : List EnumMember) :
    AllWritable (members.map (fun member => .literal member.value.scalar)) := by
  induction members with
  | nil => trivial
  | cons member rest inductionHypothesis => exact ⟨trivial, inductionHypothesis⟩

theorem isWritable_of_mem {types : List TypeExpr} (writable : AllWritable types) {type : TypeExpr}
    (member : type ∈ types) : type.IsWritable := by
  induction types with
  | nil => cases member
  | cons first rest inductionHypothesis =>
      rcases List.mem_cons.mp member with rfl | later
      · exact writable.1
      · exact inductionHypothesis writable.2 later

mutual

/-- A type whose names are names is written with words and without empty unions. -/
theorem isWritable_ofNode : ∀ {node : TypeNode}, (∀ name ∈ node.names, IsName name) →
    (ofNode arena node).IsWritable
  | .primitive name, identifiers => by
      have isName := identifiers name List.mem_cons_self
      rw [ofNode]
      by_cases date : name = "date"
      · rw [if_pos date]
        exact (by decide : IsWord "Date")
      · rw [if_neg date]
        exact isWord_of_isName isName
  | .literal _, _ => trivial
  | .array none, _ => (by decide : IsWord "unknown")
  | .array (some element), identifiers => by
      have inner : (ofNode arena element).IsWritable := isWritable_ofNode identifiers
      rw [ofNode]
      by_cases grouped : groupedAsElement element = true
      · rw [if_pos grouped]
        exact inner
      · rw [if_neg grouped]
        exact inner
  | .tuple _, identifiers => isWritable_ofNodes identifiers
  | .union _, identifiers => isWritable_ofAlternatives (isWritable_ofNodes identifiers)
  | .intersection [], _ => (by decide : IsWord "unknown")
  | .intersection (_ :: _), identifiers => by
      obtain ⟨here, later⟩ := List.forall_mem_append.mp identifiers
      exact ⟨List.cons_ne_nil _ _, isWritable_ofNode here, isWritable_ofNodes later⟩
  | .object _ _, identifiers => slotsWritable_ofProperties identifiers
  | .reference name, identifiers =>
      isWritable_ofReference arena (identifiers name List.mem_cons_self)
  | .record (some _) (some _), identifiers => by
      obtain ⟨ofKey, ofValue⟩ := List.forall_mem_append.mp identifiers
      exact ⟨isWritable_ofNode ofKey, isWritable_ofNode ofValue⟩
  | .record none _, _ => ⟨(by decide : IsWord "string"), (by decide : IsWord "unknown")⟩
  | .record (some _) none, _ => ⟨(by decide : IsWord "string"), (by decide : IsWord "unknown")⟩
  | .enumeration members _, _ => isWritable_ofAlternatives (allWritable_literals members)
  | .function, _ => trivial
  | .unknown _, _ => (by decide : IsWord "unknown")

theorem isWritable_ofNodes : ∀ {nodes : List TypeNode},
    (∀ name ∈ TypeNode.namesOfAll nodes, IsName name) → AllWritable (ofNodes arena nodes)
  | [], _ => trivial
  | _ :: _, identifiers => by
      obtain ⟨here, later⟩ := List.forall_mem_append.mp identifiers
      exact ⟨isWritable_ofNode here, isWritable_ofNodes later⟩

theorem slotsWritable_ofProperties : ∀ {properties : List Property},
    (∀ name ∈ TypeNode.namesOfProperties properties, IsName name) →
    SlotsWritable (ofProperties arena properties)
  | [], _ => trivial
  | ⟨name, type, optional⟩ :: rest, identifiers => by
      obtain ⟨isName, others⟩ := List.forall_mem_cons.mp identifiers
      obtain ⟨here, later⟩ := List.forall_mem_append.mp others
      have whole := isWritable_ofNode here
      have behind := slotsWritable_ofProperties later
      cases type with
      | union members =>
          have each : AllWritable (ofNodes arena members) := isWritable_ofNodes here
          rw [ofProperties]
          split
          · rename_i core found
            have present := isWritable_of_mem each (mem_of_companion? found)
            exact ⟨isWord_of_isName isName, present, behind⟩
          · exact ⟨isWord_of_isName isName, whole, behind⟩
      | _ => exact ⟨isWord_of_isName isName, whole, behind⟩

end

end Names

/-! ## Terms of elements -/

section Arrays

variable (arena : Keyed Declaration)

/-- What is neither put in parentheses nor a bare choice shows no operator. -/
theorem exists_terms_eq_singleton : ∀ {node : TypeNode}, groupedAsElement node = false →
    node.isBareChoice = false → ∃ type, (ofNode arena node).terms = [[type]]
  | .array (some element), _, single => by
      cases grouped : groupedAsElement element with
      | true =>
          rw [ofNode, if_pos grouped]
          exact ⟨_, rfl⟩
      | false =>
          obtain ⟨operand, shown⟩ := exists_terms_eq_singleton grouped
            (single : element.isBareChoice = false)
          rw [ofNode, grouped, if_neg Bool.false_ne_true, terms, shown]
          exact ⟨_, rfl⟩
  | .enumeration [] _, _, _ => ⟨_, rfl⟩
  | .enumeration [_] _, _, _ => ⟨_, rfl⟩
  | .enumeration (_ :: _ :: _) _, _, single => by simp [TypeNode.isBareChoice] at single
  | .reference name, _, _ => by
      rw [ofNode, ofReference]
      split
      · exact ⟨_, rfl⟩
      · exact ⟨_, rfl⟩
  | .primitive _, _, _ => ⟨_, rfl⟩
  | .literal _, _, _ => ⟨_, rfl⟩
  | .array none, _, _ => ⟨_, rfl⟩
  | .tuple _, _, _ => ⟨_, rfl⟩
  | .object _ _, _, _ => ⟨_, rfl⟩
  | .record (some _) (some _), _, _ => ⟨_, rfl⟩
  | .record none _, _, _ => ⟨_, rfl⟩
  | .record (some _) none, _, _ => ⟨_, rfl⟩
  | .unknown _, _, _ => ⟨_, rfl⟩

theorem groupedAsElement_of_isBareChoice {node : TypeNode} (choice : node.isBareChoice = true) :
    groupedAsElement node = false := by
  cases node with
  | union _ => cases choice
  | intersection _ => cases choice
  | function => cases choice
  | _ => rfl

theorem length_terms_array (element : TypeExpr) :
    (array element).terms.length = element.terms.length := by
  rw [terms, length_modifyLast]

theorem length_terms_literals (members : List EnumMember) :
    (termsOfAll (members.map (fun member => .literal member.value.scalar))).flatten.length =
      members.length := by
  induction members with
  | nil => rfl
  | cons member rest inductionHypothesis =>
      rw [List.map_cons, termsOfAll, List.flatten_cons, List.length_append, inductionHypothesis,
        List.length_cons, terms, List.length_singleton, Nat.add_comm]

theorem terms_ofAlternatives {types : List TypeExpr} (filled : types ≠ []) :
    (ofAlternatives types).terms = (termsOfAll types).flatten := by
  rw [ofAlternatives, terms]
  exact filled

theorem two_le_length_terms_of_isBareChoice {node : TypeNode} (choice : node.isBareChoice = true) :
    2 ≤ (ofNode arena node).terms.length := by
  fun_induction TypeNode.isBareChoice node with
  | case1 members name =>
      have several : 2 ≤ members.length := of_decide_eq_true choice
      have filled : members.map (fun member => TypeExpr.literal member.value.scalar) ≠ [] := by
        cases members with
        | nil => cases several
        | cons first rest => exact List.cons_ne_nil _ _
      rw [ofNode, terms_ofAlternatives filled, length_terms_literals]
      exact several
  | case2 element inductionHypothesis =>
      have alone := groupedAsElement_of_isBareChoice choice
      rw [ofNode, alone, if_neg Bool.false_ne_true, length_terms_array]
      exact inductionHypothesis choice
  | case3 => cases choice

/-! ## Arrays of arrays -/

/-- An array is never put in parentheses. -/
theorem ofNode_arrays (element : TypeNode) (depth : Nat) :
    ofNode arena ((TypeNode.array ∘ some)^[depth + 1] element) =
      array^[depth] (ofNode arena (.array (some element))) := by
  induction depth with
  | zero => rfl
  | succ depth inductionHypothesis =>
      have alone : groupedAsElement ((TypeNode.array ∘ some)^[depth + 1] element) = false := by
        rw [Function.iterate_succ_apply']
        rfl
      rw [Function.iterate_succ_apply', Function.comp_apply, ofNode, alone, inductionHypothesis,
        if_neg Bool.false_ne_true, Function.iterate_succ_apply']

theorem terms_arrays {type operand : TypeExpr} (single : type.terms = [[operand]]) (depth : Nat) :
    (array^[depth] type).terms = [[array^[depth] operand]] := by
  induction depth with
  | zero => exact single
  | succ depth inductionHypothesis =>
      rw [Function.iterate_succ_apply', Function.iterate_succ_apply', terms, inductionHypothesis]
      rfl

theorem length_terms_arrays (type : TypeExpr) (depth : Nat) :
    (array^[depth] type).terms.length = type.terms.length := by
  induction depth with
  | zero => rfl
  | succ depth inductionHypothesis =>
      rw [Function.iterate_succ_apply', length_terms_array, inductionHypothesis]

theorem ofTerms_ne_array {terms : List (List TypeExpr)} (several : 2 ≤ terms.length)
    (element : TypeExpr) : ofTerms terms ≠ .array element := by
  rcases terms with _ | ⟨first, _ | ⟨second, rest⟩⟩
  · simp at several
  · simp at several
  · intro equal
    cases equal

theorem asRead_arrays_iff (element : TypeNode) (depth : Nat) :
    (array^[depth] (ofNode arena (.array (some element)))).asRead =
        array^[depth + 1] (if groupedAsElement element then
          .parenthesized (ofNode arena element).asRead else (ofNode arena element).asRead) ↔
      element.isBareChoice = false := by
  by_cases choice : element.isBareChoice = true
  · have several : 2 ≤ (ofNode arena (.array (some element))).terms.length :=
      two_le_length_terms_of_isBareChoice arena choice
    rw [← length_terms_arrays _ depth] at several
    refine iff_of_false ?_ (by simp [choice])
    rw [Function.iterate_succ_apply']
    exact ofTerms_ne_array several _
  · have noChoice := Bool.not_eq_true _ |>.mp choice
    refine iff_of_true ?_ noChoice
    by_cases grouped : groupedAsElement element = true
    · have inParentheses : (ofNode arena (.array (some element))).terms =
          [[array (.parenthesized (ofNode arena element).asRead)]] := by
        rw [ofNode, if_pos grouped]
        rfl
      rw [asRead, terms_arrays inParentheses, if_pos grouped, Function.iterate_succ_apply]
      rfl
    · obtain ⟨operand, single⟩ :=
        exists_terms_eq_singleton arena (Bool.not_eq_true _ |>.mp grouped) noChoice
      have alone : (ofNode arena (.array (some element))).terms = [[array operand]] := by
        rw [ofNode, if_neg grouped, terms, single]
        rfl
      rw [asRead, terms_arrays alone, if_neg grouped, asRead, single, Function.iterate_succ_apply]
      rfl

theorem isWritable_arrays {type : TypeExpr} (writable : type.IsWritable) (depth : Nat) :
    (array^[depth] type).IsWritable := by
  induction depth with
  | zero => exact writable
  | succ depth inductionHypothesis =>
      rw [Function.iterate_succ_apply']
      exact inductionHypothesis

/-- An element that shows an operator is put in parentheses, unless it is a bare choice. -/
theorem grouped_of_operator_iff {element : TypeNode} {pieces : List Piece}
    (read : terms? pieces = some (ofNode arena element).terms) :
    ((∃ piece ∈ pieces, piece.isOperator = true) → groupedAsElement element = true) ↔
      element.isBareChoice = false := by
  have operators := exists_eq_singleton_iff read
  cases choice : element.isBareChoice with
  | true =>
      have several := two_le_length_terms_of_isBareChoice arena choice
      have shown : ∃ piece ∈ pieces, piece.isOperator = true := by
        by_contra none_shown
        obtain ⟨operand, single⟩ := operators.mpr (by simpa using none_shown)
        rw [single, List.length_singleton] at several
        omega
      simp [shown, groupedAsElement_of_isBareChoice choice]
  | false =>
      refine iff_of_true ?_ rfl
      rintro ⟨piece, there, operator⟩
      by_contra alone
      have single := exists_terms_eq_singleton arena (Bool.not_eq_true _ |>.mp alone) choice
      rw [operators.mp single piece there] at operator
      cases operator

end Arrays

/-- The text of an array is the text of its element, perhaps in parentheses, with `[]` behind it.
Unless the element is a bare choice, an operator outside all brackets of the element's text comes
with the parentheses, and arrays of any depth are read as such arrays of what the element is read
as. Of a bare choice neither holds. -/
theorem array_of_whole_element_iff (arena : Keyed Declaration) (element : TypeNode)
    (identifiers : ∀ name ∈ element.names, IsName name) :
    ∃ pieces reading,
      pieces? (ofNode arena element).code = some pieces ∧
      ofPieces? pieces = some reading ∧
      (ofNode arena (.array (some element))).code =
        (if groupedAsElement element then "(" ++ (ofNode arena element).code ++ ")"
          else (ofNode arena element).code) ++ "[]" ∧
      (((∃ piece ∈ pieces, piece.isOperator = true) → groupedAsElement element = true) ↔
        element.isBareChoice = false) ∧
      ∀ depth,
        read? (ofNode arena ((TypeNode.array ∘ some)^[depth + 1] element)).code =
            some (array^[depth + 1]
              (if groupedAsElement element then .parenthesized reading else reading)) ↔
          element.isBareChoice = false := by
  have writable := isWritable_ofNode arena identifiers
  obtain ⟨pieces, hasPieces, writes⟩ := hasTerms_code writable
  refine ⟨pieces, (ofNode arena element).asRead, hasPieces.pieces?,
    ofPieces?_of_writeTerms writes, ?_, ?_, fun depth => ?_⟩
  · rw [ofNode, code]
    split
    · rw [code]
    · rfl
  · exact grouped_of_operator_iff arena writes.read
  · have writableArray : (ofNode arena (.array (some element))).IsWritable :=
      isWritable_ofNode arena identifiers
    have read := (hasTerms_code (isWritable_arrays writableArray depth)).read?
    rw [ofNode_arrays arena, read, Option.some.injEq]
    exact asRead_arrays_iff arena element depth

/-- A choice between a text with a bar in it and an array. -/
def labelNode : TypeNode :=
  .union [.literal (.text "a|b"), .array (some (.reference "Label"))]

theorem label_matrix_reads :
    (∀ name ∈ labelNode.names, IsName name) ∧
      ∃ reading, read? (ofNode [] (.array (some (.array (some labelNode))))).code =
        some (.array (.array (.parenthesized reading))) := by
  refine ⟨by decide, ?_⟩
  obtain ⟨_, reading, _, _, _, _, arrays⟩ := array_of_whole_element_iff [] labelNode (by decide)
  exact ⟨reading, (arrays 1).mpr rfl⟩

/-- An enumeration of two values. -/
def sideNode : TypeNode :=
  .enumeration [⟨"Left", .text "left"⟩, ⟨"Right", .text "right"⟩] none

/-- Only the last value of an enumeration becomes an array. -/
theorem side_array_reads_as_union :
    (ofNode [] (.array (some sideNode))).code = "\"left\" | \"right\"[]" ∧
      read? (ofNode [] (.array (some sideNode))).code =
        some (.union [.literal (.text "left"), .array (.literal (.text "right"))]) ∧
      ¬ ∃ element, read? (ofNode [] (.array (some sideNode))).code = some (.array element) := by
  have writable : (ofNode [] (.array (some sideNode))).IsWritable :=
    isWritable_ofNode [] (by decide)
  have read := (hasTerms_code writable).read?
  refine ⟨by decide, read, ?_⟩
  rintro ⟨element, readAsArray⟩
  rw [read] at readAsArray
  cases readAsArray

end TypeExpr

end TypeScaffold
