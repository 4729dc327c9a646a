import Mathlib.Data.Set.List
import TypeScaffold.Proofs.TypeExpr.Parts

/-!
# Intersections of types

The members of an intersection are written without parentheses. An intersection is read as the
operands of all its members exactly if no member shows `|` outside all brackets and string literals,
and then it is read so wherever it stands in another type. Unions of several members, enumerations
of several values and arrays of such enumerations show `|`, and so do unions and intersections with
a member that does.
-/

namespace TypeScaffold

namespace TypeNode

mutual

/-- The text of the type shows `|` outside all brackets and string literals. -/
def exposesChoice : TypeNode → Bool
  | .enumeration members _ => 2 ≤ members.length
  | .array (some element) => isBareChoice element
  | .union members => 2 ≤ members.length || anyExposesChoice members
  | .intersection members => anyExposesChoice members
  | _ => false
termination_by structural node => node

def anyExposesChoice : List TypeNode → Bool
  | [] => false
  | node :: rest => exposesChoice node || anyExposesChoice rest
termination_by structural nodes => nodes

end

theorem anyExposesChoice_eq_false_iff (nodes : List TypeNode) :
    anyExposesChoice nodes = false ↔ ∀ node ∈ nodes, node.exposesChoice = false := by
  induction nodes with
  | nil => simp [anyExposesChoice]
  | cons node rest inductionHypothesis =>
      rw [anyExposesChoice, Bool.or_eq_false_iff, inductionHypothesis, List.forall_mem_cons]

end TypeNode

namespace TypeExpr

theorem terms_ne_nil {type : TypeExpr} (writable : type.IsWritable) : type.terms ≠ [] := by
  obtain ⟨pieces, _, writes⟩ := hasTerms_code writable
  have shown := length_of_terms? writes.read
  exact List.ne_nil_of_length_eq_add_one shown

theorem forall_termsOfAll_ne_nil {types : List TypeExpr} (writable : AllWritable types) :
    ∀ terms ∈ termsOfAll types, terms ≠ [] := by
  rw [termsOfAll_eq_map]
  intro terms member
  obtain ⟨type, there, rfl⟩ := List.mem_map.mp member
  exact terms_ne_nil (isWritable_of_mem writable there)

/-! ## Which types show alternatives -/

theorem two_le_length_flatten_iff {α : Type} {all : List (List α)}
    (filled : ∀ part ∈ all, part ≠ []) :
    2 ≤ all.flatten.length ↔ 2 ≤ all.length ∨ ∃ part ∈ all, 2 ≤ part.length := by
  rcases all with _ | ⟨first, _ | ⟨second, rest⟩⟩
  · simp
  · simp
  · have firstShown := List.length_pos_of_ne_nil (filled first (by simp))
    have secondShown := List.length_pos_of_ne_nil (filled second (by simp))
    refine iff_of_true ?_ (Or.inl ?_)
    · rw [List.flatten_cons, List.flatten_cons, List.length_append, List.length_append]
      omega
    · rw [List.length_cons, List.length_cons]
      omega

theorem length_meet (front : List (List TypeExpr)) {more : List (List TypeExpr)}
    (filled : more ≠ []) :
    (meet front more).length + 1 = front.length + more.length := by
  cases more with
  | nil => exact absurd rfl filled
  | cons first later =>
      rw [meet, List.length_append, length_modifyLast, List.length_cons, Nat.add_assoc]

theorem foldr_meet_ne_nil {all : List (List (List TypeExpr))}
    (filled : ∀ terms ∈ all, terms ≠ []) : all.foldr meet [[]] ≠ [] := by
  induction all with
  | nil => exact List.cons_ne_nil _ _
  | cons terms rest inductionHypothesis =>
      obtain ⟨here, later⟩ := List.forall_mem_cons.mp filled
      have joined := length_meet terms (inductionHypothesis later)
      have shown := List.length_pos_of_ne_nil here
      have more := List.length_pos_of_ne_nil (inductionHypothesis later)
      rw [List.foldr_cons]
      apply List.ne_nil_of_length_pos
      omega

/-- An intersection shows an alternative more for each that a member shows besides its first. -/
theorem two_le_length_foldr_meet_iff {all : List (List (List TypeExpr))}
    (filled : ∀ terms ∈ all, terms ≠ []) :
    2 ≤ (all.foldr meet [[]]).length ↔ ∃ terms ∈ all, 2 ≤ terms.length := by
  induction all with
  | nil => simp
  | cons terms rest inductionHypothesis =>
      obtain ⟨here, later⟩ := List.forall_mem_cons.mp filled
      have joined := length_meet terms (foldr_meet_ne_nil later)
      have shown := List.length_pos_of_ne_nil here
      have more := List.length_pos_of_ne_nil (foldr_meet_ne_nil later)
      rw [List.foldr_cons, List.exists_mem_cons_iff, ← inductionHypothesis later]
      omega

section Choices

variable (arena : Keyed Declaration)

theorem length_terms_ofAlternatives {types : List TypeExpr} (writable : AllWritable types) :
    2 ≤ (ofAlternatives types).terms.length ↔
      2 ≤ types.length ∨ ∃ terms ∈ termsOfAll types, 2 ≤ terms.length := by
  cases types with
  | nil => simp [ofAlternatives, terms, termsOfAll]
  | cons type rest =>
      have counted := two_le_length_flatten_iff (forall_termsOfAll_ne_nil writable)
      rw [terms_ofAlternatives (List.cons_ne_nil type rest), counted, termsOfAll_eq_map,
        List.length_map]

theorem length_terms_of_plain {node : TypeNode} (alone : groupedAsElement node = false)
    (single : node.isBareChoice = false) : ¬ 2 ≤ (ofNode arena node).terms.length := by
  obtain ⟨type, shown⟩ := exists_terms_eq_singleton arena alone single
  rw [shown, List.length_singleton]
  omega

mutual

/-- A type shows several alternatives just if its kind and its parts say so. -/
theorem two_le_length_terms_iff : ∀ {node : TypeNode}, (∀ name ∈ node.names, IsName name) →
    (2 ≤ (ofNode arena node).terms.length ↔ node.exposesChoice = true)
  | .union members, identifiers => by
      have any : _ ↔ TypeNode.anyExposesChoice members = true := any_two_le_length_iff identifiers
      rw [ofNode, length_terms_ofAlternatives (isWritable_ofNodes arena identifiers), any,
        ofNodes_eq_map, List.length_map, TypeNode.exposesChoice, Bool.or_eq_true,
        decide_eq_true_iff]
  | .intersection [], _ => by
      simp [ofNode, unknown, terms, TypeNode.exposesChoice, TypeNode.anyExposesChoice]
  | .intersection (first :: rest), identifiers => by
      have any : _ ↔ TypeNode.anyExposesChoice (first :: rest) = true :=
        any_two_le_length_iff identifiers
      have writable : AllWritable (ofNodes arena (first :: rest)) :=
        isWritable_ofNodes arena identifiers
      rw [TypeNode.exposesChoice, ← any]
      exact two_le_length_foldr_meet_iff (forall_termsOfAll_ne_nil writable)
  | .enumeration members _, _ => by
      have singles : ¬ ∃ terms ∈
          termsOfAll (members.map (fun member => literal member.value.scalar)),
          2 ≤ terms.length := by
        rintro ⟨terms, member, several⟩
        rw [termsOfAll_eq_map, List.map_map] at member
        obtain ⟨value, _, rfl⟩ := List.mem_map.mp member
        simp [TypeExpr.terms] at several
      rw [ofNode, length_terms_ofAlternatives (allWritable_literals members), or_iff_left singles,
        List.length_map, TypeNode.exposesChoice, decide_eq_true_iff]
  | .array (some element), _ => by
      cases choice : element.isBareChoice with
      | true =>
          have several : 2 ≤ (ofNode arena (.array (some element))).terms.length :=
            two_le_length_terms_of_isBareChoice arena choice
          exact iff_of_true several choice
      | false =>
          have plain : ¬ 2 ≤ (ofNode arena (.array (some element))).terms.length :=
            length_terms_of_plain arena rfl choice
          refine iff_of_false plain ?_
          rw [TypeNode.exposesChoice, choice]
          exact Bool.false_ne_true
  | .array none, _ => iff_of_false (length_terms_of_plain arena rfl rfl) Bool.false_ne_true
  | .primitive _, _ => iff_of_false (length_terms_of_plain arena rfl rfl) Bool.false_ne_true
  | .literal _, _ => iff_of_false (length_terms_of_plain arena rfl rfl) Bool.false_ne_true
  | .tuple _, _ => iff_of_false (length_terms_of_plain arena rfl rfl) Bool.false_ne_true
  | .object _ _, _ => iff_of_false (length_terms_of_plain arena rfl rfl) Bool.false_ne_true
  | .reference _, _ => iff_of_false (length_terms_of_plain arena rfl rfl) Bool.false_ne_true
  | .record _ _, _ => iff_of_false (length_terms_of_plain arena rfl rfl) Bool.false_ne_true
  | .unknown _, _ => iff_of_false (length_terms_of_plain arena rfl rfl) Bool.false_ne_true
  | .function, _ => iff_of_false (by simp [ofNode, terms]) Bool.false_ne_true

theorem any_two_le_length_iff : ∀ {nodes : List TypeNode},
    (∀ name ∈ TypeNode.namesOfAll nodes, IsName name) →
    ((∃ terms ∈ termsOfAll (ofNodes arena nodes), 2 ≤ terms.length) ↔
      TypeNode.anyExposesChoice nodes = true)
  | [], _ => by simp [ofNodes, termsOfAll, TypeNode.anyExposesChoice]
  | node :: rest, identifiers => by
      obtain ⟨here, later⟩ := List.forall_mem_append.mp identifiers
      rw [ofNodes, termsOfAll, List.exists_mem_cons_iff, two_le_length_terms_iff here,
        any_two_le_length_iff later, TypeNode.anyExposesChoice, Bool.or_eq_true]

end

theorem exposesChoice_eq_false_iff {node : TypeNode}
    (identifiers : ∀ name ∈ node.names, IsName name) :
    node.exposesChoice = false ↔ (ofNode arena node).terms.length = 1 := by
  have filled := terms_ne_nil (isWritable_ofNode arena identifiers)
  have shown := List.length_pos_of_ne_nil filled
  rw [← Bool.not_eq_true, ← two_le_length_terms_iff arena identifiers]
  omega

/-- Members without a choice show one alternative each, with operands in it. -/
theorem exists_lists_of_no_choice {members : List TypeNode}
    (identifiers : ∀ name ∈ TypeNode.namesOfAll members, IsName name)
    (none_exposes : TypeNode.anyExposesChoice members = false) :
    ∃ lists : List (List TypeExpr), (∀ own ∈ lists, own ≠ []) ∧
      termsOfAll (ofNodes arena members) = lists.map (fun own => [own]) := by
  have writable : AllWritable (ofNodes arena members) := isWritable_ofNodes arena identifiers
  have single : ∀ terms ∈ termsOfAll (ofNodes arena members),
      terms ∈ Set.range (fun own : List TypeExpr => [own]) := by
    intro terms there
    have shown := List.length_pos_of_ne_nil (forall_termsOfAll_ne_nil writable terms there)
    have few : ¬ 2 ≤ terms.length := fun several => by
      have exposes := (any_two_le_length_iff arena identifiers).mp ⟨terms, there, several⟩
      rw [none_exposes] at exposes
      cases exposes
    obtain ⟨own, rfl⟩ := List.length_eq_one_iff.mp (by omega : terms.length = 1)
    exact ⟨own, rfl⟩
  obtain ⟨lists, equal⟩ : termsOfAll (ofNodes arena members) ∈
      Set.range (List.map (fun own : List TypeExpr => [own])) := by
    rw [Set.range_list_map]
    exact single
  refine ⟨lists, fun own there => ?_, equal.symm⟩
  have among : [own] ∈ termsOfAll (ofNodes arena members) := equal ▸ List.mem_map_of_mem there
  rw [termsOfAll_eq_map] at among
  obtain ⟨type, member, shown⟩ := List.mem_map.mp among
  obtain ⟨pieces, _, writes⟩ := hasTerms_code (isWritable_of_mem writable member)
  exact forall_terms?_ne_nil writes.read own (shown ▸ List.mem_singleton_self own)

end Choices

/-! ## Operands of an intersection -/

/-- Members with one alternative each are joined to one alternative. -/
theorem foldr_meet_singletons (lists : List (List TypeExpr)) :
    (lists.map (fun operands => [operands])).foldr meet [[]] = [lists.flatten] := by
  induction lists with
  | nil => rfl
  | cons operands rest inductionHypothesis =>
      rw [List.map_cons, List.foldr_cons, inductionHypothesis, List.flatten_cons]
      rfl

theorem ofOperands_of_two_le {operands : List TypeExpr} (several : 2 ≤ operands.length) :
    ofOperands operands = .intersection operands := by
  rcases operands with _ | ⟨first, _ | ⟨second, rest⟩⟩
  · simp at several
  · simp at several
  · rfl

theorem ofTerms_ne_intersection {terms : List (List TypeExpr)} (several : 2 ≤ terms.length)
    (operands : List TypeExpr) : ofTerms terms ≠ .intersection operands := by
  rcases terms with _ | ⟨first, _ | ⟨second, rest⟩⟩
  · simp at several
  · simp at several
  · intro equal
    cases equal

section Members

variable {arena : Keyed Declaration} {members : List TypeNode}

/-- Members that show one alternative each are read as the operands of these. -/
theorem forall₂_read_of_terms {lists : List (List TypeExpr)}
    (identifiers : ∀ name ∈ TypeNode.namesOfAll members, IsName name)
    (single : termsOfAll (ofNodes arena members) = lists.map (fun own => [own])) :
    List.Forall₂ (fun member own => read? (ofNode arena member).code = some (ofOperands own))
      members lists := by
  have writable : ∀ member ∈ members, (ofNode arena member).IsWritable := by
    intro member there
    have among : ofNode arena member ∈ ofNodes arena members := by
      rw [ofNodes_eq_map]
      exact List.mem_map_of_mem there
    exact isWritable_of_mem (isWritable_ofNodes arena identifiers) among
  rw [termsOfAll_eq_map, ofNodes_eq_map, List.map_map, ← List.forall₂_eq_eq_eq,
    List.forall₂_map_left_iff, List.forall₂_map_right_iff] at single
  refine ((List.forall₂_and_left members lists).mpr ⟨writable, single⟩).imp ?_
  rintro member own ⟨writes, equal⟩
  rw [(hasTerms_code writes).read?, ← Function.comp_apply (f := terms), equal]
  rfl

theorem terms_intersection (filled : members ≠ []) :
    (ofNode arena (.intersection members)).terms =
      (termsOfAll (ofNodes arena members)).foldr meet [[]] := by
  cases members with
  | nil => exact absurd rfl filled
  | cons first rest => rfl

/-- Without choices in its members an intersection shows the operands of all of them. -/
theorem terms_intersection_of_lists {lists : List (List TypeExpr)} (filled : members ≠ [])
    (single : termsOfAll (ofNodes arena members) = lists.map (fun own => [own])) :
    (ofNode arena (.intersection members)).terms = [lists.flatten] := by
  rw [terms_intersection filled, single, foldr_meet_singletons]

/-- Several members without choices show several operands. -/
theorem two_le_length_of_lists {lists : List (List TypeExpr)} (several : 2 ≤ members.length)
    (filled : ∀ own ∈ lists, own ≠ [])
    (single : termsOfAll (ofNodes arena members) = lists.map (fun own => [own])) :
    2 ≤ lists.flatten.length := by
  have lengths := congrArg List.length single
  rw [termsOfAll_eq_map, ofNodes_eq_map, List.length_map, List.length_map,
    List.length_map] at lengths
  exact (two_le_length_flatten_iff filled).mpr (Or.inl (lengths ▸ several))

theorem keeps_intersection {operands : List TypeExpr} (several : 2 ≤ operands.length)
    (shown : (ofNode arena (.intersection members)).terms = [operands]) :
    Keeps arena (.intersection operands) (.intersection members) := by
  have whole : Shows (.intersection operands) (ofNode arena (.intersection members)) := by
    refine ⟨operands, shown ▸ List.mem_singleton_self _, ?_⟩
    rw [ofOperands_of_two_le several]
    exact .self
  exact ⟨whole, whole, fun alone => by cases alone⟩

end Members

/-- An intersection of several members shows no `|` outside all brackets and string literals exactly
if none of its members does, and exactly then it is read as the intersection of what its members are
read as. The operands of a member that is an intersection itself are then operands of the whole. It
is read so wherever it stands. -/
theorem intersection_of_members_iff (arena : Keyed Declaration) {members : List TypeNode}
    (several : 2 ≤ members.length)
    (identifiers : ∀ name ∈ (TypeNode.intersection members).names, IsName name) :
    ∃ pieces,
      pieces? (ofNode arena (.intersection members)).code = some pieces ∧
      ((∀ piece ∈ pieces, piece.isMark '|' = false) ↔
        ∀ member ∈ members, member.exposesChoice = false) ∧
      ((∃ operands : List (List TypeExpr),
          List.Forall₂ (fun member own => read? (ofNode arena member).code = some (ofOperands own))
            members operands ∧
          read? (ofNode arena (.intersection members)).code =
            some (.intersection operands.flatten) ∧
          ∀ outer : TypeNode, (TypeNode.intersection members).IsPartOf outer →
            (∀ name ∈ outer.names, IsName name) →
            ∃ reading, read? (ofNode arena outer).code = some reading ∧
              (TypeExpr.intersection operands.flatten).IsPartOf reading) ↔
        ∀ member ∈ members, member.exposesChoice = false) := by
  have filled : members ≠ [] := List.ne_nil_of_length_pos (by omega)
  have writable := isWritable_ofNode arena identifiers
  obtain ⟨pieces, hasPieces, writes⟩ := hasTerms_code writable
  have alternatives := length_of_terms? writes.read
  have alone := exposesChoice_eq_false_iff arena identifiers
  rw [TypeNode.exposesChoice] at alone
  refine ⟨pieces, hasPieces.pieces?, ?_, ?_⟩
  · rw [forall_isMark_eq_false_iff, ← TypeNode.anyExposesChoice_eq_false_iff, alone]
    omega
  rw [← TypeNode.anyExposesChoice_eq_false_iff]
  constructor
  · rintro ⟨operands, _, read, _⟩
    rw [(hasTerms_code writable).read?] at read
    by_contra exposes
    have several_shown : 2 ≤ (ofNode arena (.intersection members)).terms.length := by
      have not_one := mt alone.mpr exposes
      omega
    exact ofTerms_ne_intersection several_shown _ (Option.some.inj read)
  · intro none_exposes
    obtain ⟨lists, filledLists, single⟩ :=
      exists_lists_of_no_choice arena identifiers none_exposes
    have shown := terms_intersection_of_lists filled single
    have joined := two_le_length_of_lists several filledLists single
    have keeps := keeps_intersection joined shown
    refine ⟨lists, forall₂_read_of_terms identifiers single, ?_, fun outer stands outerNames => ?_⟩
    · rw [(hasTerms_code writable).read?, shown, ofTerms, ofOperands_of_two_le joined]
    · have writableOuter := isWritable_ofNode arena outerNames
      exact ⟨_, (hasTerms_code writableOuter).read?,
        (keeps_of_isPartOf keeps rfl stands).whole.isPartOf_asRead⟩

/-- A card with its marks. -/
def markedCard : List TypeNode :=
  [.reference "Card", .array (some (.union [.reference "Mark", .primitive "string"]))]

theorem optional_marked_card_reads :
    2 ≤ markedCard.length ∧
    (∀ name ∈ (TypeNode.intersection markedCard).names, IsName name) ∧
    ∃ operands reading,
      read? (ofNode [] (.object
        [⟨"card", .union [.intersection markedCard, .primitive "undefined"], false⟩] none)).code =
          some reading ∧
      (TypeExpr.intersection operands).IsPartOf reading := by
  have several : 2 ≤ markedCard.length := by decide
  have identifiers : ∀ name ∈ (TypeNode.intersection markedCard).names, IsName name := by decide
  refine ⟨several, identifiers, ?_⟩
  obtain ⟨_, _, _, whole⟩ := intersection_of_members_iff [] several identifiers
  obtain ⟨operands, _, _, nested⟩ := whole.mpr (by decide)
  obtain ⟨reading, read, part⟩ := nested
    (.object [⟨"card", .union [.intersection markedCard, .primitive "undefined"], false⟩] none)
    (.property List.mem_cons_self (.union List.mem_cons_self .self)) (by decide)
  exact ⟨operands.flatten, reading, read, part⟩

/-- A choice between two declarations, and a third that always holds. -/
def eitherWithOwner : List TypeNode :=
  [.union [.reference "Person", .reference "Team"], .reference "Owner"]

/-- The last alternative of a union alone is joined with the next member. -/
theorem either_with_owner_reads_as_union :
    (ofNode [] (.intersection eitherWithOwner)).code = "PersonState | TeamState & OwnerState" ∧
      read? (ofNode [] (.intersection eitherWithOwner)).code =
        some (.union [.named "PersonState",
          .intersection [.named "TeamState", .named "OwnerState"]]) ∧
      ¬ ∃ operands, read? (ofNode [] (.intersection eitherWithOwner)).code =
        some (.intersection operands) := by
  have writable : (ofNode [] (.intersection eitherWithOwner)).IsWritable :=
    isWritable_ofNode [] (by decide)
  have read := (hasTerms_code writable).read?
  refine ⟨by decide, read, ?_⟩
  rintro ⟨operands, readAsIntersection⟩
  rw [read] at readAsIntersection
  cases readAsIntersection

end TypeExpr

end TypeScaffold
