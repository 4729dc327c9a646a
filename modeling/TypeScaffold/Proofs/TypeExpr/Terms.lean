import Mathlib.Data.List.ModifyLast
import TypeScaffold.Proofs.Model.Choice
import TypeScaffold.Proofs.TypeExpr.Reading

/-!
# Terms of pieces

What two runs of pieces write together: with `|` between them the alternatives of both, with `&` the
last alternative of the first goes on with the first of the second, and `[]` behind pieces belongs
to their very last operand only.
-/

namespace TypeScaffold

theorem mapM_append_eq_some_iff {α β : Type} {value? : α → Option β} {items others : List α}
    {values : List β} :
    (items ++ others).mapM value? = some values ↔
      ∃ front behind, items.mapM value? = some front ∧ others.mapM value? = some behind ∧
        values = front ++ behind := by
  rw [List.mapM_append]
  simp only [Option.bind_eq_bind, Option.bind_eq_some_iff, Option.pure_def, Option.some.injEq]
  constructor
  · rintro ⟨front, here, behind, there, rfl⟩
    exact ⟨front, behind, here, there, rfl⟩
  · rintro ⟨front, behind, here, there, rfl⟩
    exact ⟨front, here, behind, there, rfl⟩

theorem mapM_cons_eq_some_iff {α β : Type} {value? : α → Option β} {item : α} {others : List α}
    {values : List β} :
    (item :: others).mapM value? = some values ↔
      ∃ value behind, value? item = some value ∧ others.mapM value? = some behind ∧
        values = value :: behind := by
  rw [mapM_eq_some_iff, List.forall₂_cons_left_iff]
  simp only [mapM_eq_some_iff]

theorem mapM_singleton_eq_some_iff {α β : Type} {value? : α → Option β} {item : α}
    {values : List β} :
    [item].mapM value? = some values ↔ ∃ value, value? item = some value ∧ values = [value] := by
  rw [mapM_cons_eq_some_iff]
  simp

theorem mapM_concat_eq_some_iff {α β : Type} {value? : α → Option β} {items : List α} {item : α}
    {values : List β} :
    (items ++ [item]).mapM value? = some values ↔
      ∃ front value, items.mapM value? = some front ∧ value? item = some value ∧
        values = front ++ [value] := by
  rw [mapM_append_eq_some_iff]
  simp only [mapM_cons_eq_some_iff, List.mapM_nil, Option.pure_def, Option.some.injEq]
  constructor
  · rintro ⟨front, _, here, ⟨value, _, found, rfl, rfl⟩, rfl⟩
    exact ⟨front, value, here, found, rfl⟩
  · rintro ⟨front, value, here, found, rfl⟩
    exact ⟨front, _, here, ⟨value, _, found, rfl, rfl⟩, rfl⟩

namespace TypeExpr

/-! ## Cutting -/

section Cutting

variable {α : Type} {test : α → Bool}

/-- Where two lists meet, the last part of the first goes on with the first part of the second. -/
theorem splitOnP_append {xs ys last first : List α} {front later : List (List α)}
    (split : xs.splitOnP test = front ++ [last]) (splitToo : ys.splitOnP test = first :: later) :
    (xs ++ ys).splitOnP test = front ++ (last ++ first) :: later := by
  induction xs generalizing front last with
  | nil =>
      rw [List.splitOnP_nil] at split
      cases front with
      | nil => simp_all
      | cons part front => simp at split
  | cons x xs inductionHypothesis =>
      obtain ⟨part, others, parts⟩ := List.exists_cons_of_ne_nil (List.splitOnP_ne_nil test xs)
      rw [List.splitOnP_cons_eq_if_modifyHead, parts, List.modifyHead_cons] at split
      rw [List.cons_append, List.splitOnP_cons_eq_if_modifyHead]
      by_cases separates : test x = true
      · rw [if_pos separates] at split ⊢
        cases front with
        | nil => simp at split
        | cons empty front =>
            obtain ⟨rfl, rest⟩ := List.cons.inj split
            rw [inductionHypothesis (parts.trans rest), List.cons_append]
      · rw [if_neg separates] at split ⊢
        cases front with
        | nil =>
            obtain ⟨rfl, rfl⟩ := List.cons.inj split
            have joined : (xs ++ ys).splitOnP test = [] ++ (part ++ first) :: later :=
              inductionHypothesis parts
            rw [joined]
            rfl
        | cons head front =>
            obtain ⟨rfl, rfl⟩ := List.cons.inj split
            have joined : (xs ++ ys).splitOnP test = part :: front ++ (last ++ first) :: later :=
              inductionHypothesis parts
            rw [joined]
            rfl

theorem exists_splitOnP_concat (test : α → Bool) (xs : List α) :
    ∃ front last, xs.splitOnP test = front ++ [last] := by
  rcases List.eq_nil_or_concat' (xs.splitOnP test) with empty | ⟨front, last, equal⟩
  · exact absurd empty (List.splitOnP_ne_nil test xs)
  · exact ⟨front, last, equal⟩

/-- Parts without the separator are what the list is cut into again. -/
theorem splitOnP_intercalate {separator : α} (separates : test separator = true) :
    ∀ {parts : List (List α)}, parts ≠ [] → (∀ part ∈ parts, ∀ x ∈ part, test x = false) →
      ([separator].intercalate parts).splitOnP test = parts
  | [], filled, _ => absurd rfl filled
  | [part], _, fresh => by
      rw [List.intercalate_singleton]
      exact List.splitOnP_eq_singleton (fresh part List.mem_cons_self)
  | part :: next :: parts, _, fresh => by
      obtain ⟨freshHere, freshLater⟩ := List.forall_mem_cons.mp fresh
      have later := splitOnP_intercalate separates (List.cons_ne_nil next parts) freshLater
      rw [List.intercalate_cons_cons, List.append_assoc, List.singleton_append,
        List.splitOnP_append_cons_of_forall_mem freshHere separator separates, later]

theorem length_splitOnP (test : α → Bool) (xs : List α) :
    (xs.splitOnP test).length = xs.countP test + 1 := by
  induction xs with
  | nil => rw [List.splitOnP_nil, List.countP_nil, List.length_singleton]
  | cons x xs inductionHypothesis =>
      rw [List.splitOnP_cons_eq_if_modifyHead]
      by_cases separates : test x = true
      · rw [if_pos separates, List.length_cons, inductionHypothesis,
          List.countP_cons_of_pos separates]
      · rw [if_neg separates, List.length_modifyHead, inductionHypothesis,
          List.countP_cons_of_neg separates]

end Cutting

theorem length_modifyLast {α : Type} (change : α → α) (items : List α) :
    (items.modifyLast change).length = items.length := by
  rcases List.eq_nil_or_concat' items with rfl | ⟨front, last, rfl⟩
  · rfl
  · rw [List.modifyLast_concat, List.length_append, List.length_append]
    rfl

/-! ## Marks between pieces -/

section Marks

variable {pieces others : List Piece} {terms more : List (List TypeExpr)}

/-- The terms of two texts with `&` between them. -/
def meet (front : List (List TypeExpr)) : List (List TypeExpr) → List (List TypeExpr)
  | [] => front
  | first :: later => front.modifyLast (· ++ first) ++ later

theorem splitOnP_append_mark (sign : Char) (pieces others : List Piece) :
    (pieces ++ .mark sign :: others).splitOnP (Piece.isMark sign) =
      pieces.splitOnP (Piece.isMark sign) ++ others.splitOnP (Piece.isMark sign) := by
  have separates : Piece.isMark sign (.mark sign) = true := beq_self_eq_true sign
  rw [List.splitOnP_append_cons pieces others separates]

theorem splitOnP_list (sign : Char) :
    [Piece.list []].splitOnP (Piece.isMark sign) = [[Piece.list []]] :=
  List.splitOnP_eq_singleton (by simp [Piece.isMark])

theorem terms?_alternatives (read : terms? pieces = some terms)
    (readToo : terms? others = some more) :
    terms? (pieces ++ .mark '|' :: others) = some (terms ++ more) := by
  have cut := splitOnP_append_mark '|' pieces others
  rw [terms?, cut]
  exact mapM_append_eq_some_iff.mpr ⟨terms, more, read, readToo, rfl⟩

theorem operands?_append {last first : List Piece} {operands operandsToo : List TypeExpr}
    (read : operands? last = some operands) (readToo : operands? first = some operandsToo) :
    operands? (last ++ .mark '&' :: first) = some (operands ++ operandsToo) := by
  have cut := splitOnP_append_mark '&' last first
  rw [operands?, cut]
  exact mapM_append_eq_some_iff.mpr ⟨operands, operandsToo, read, readToo, rfl⟩

theorem terms?_meet (read : terms? pieces = some terms) (readToo : terms? others = some more) :
    terms? (pieces ++ .mark '&' :: others) = some (meet terms more) := by
  obtain ⟨front, last, split⟩ := exists_splitOnP_concat (Piece.isMark '|') pieces
  obtain ⟨first, later, splitToo⟩ :=
    List.exists_cons_of_ne_nil (List.splitOnP_ne_nil (Piece.isMark '|') others)
  have behind : (.mark '&' :: others).splitOnP (Piece.isMark '|') =
      (.mark '&' :: first) :: later := by
    rw [List.splitOnP_cons_eq_if_modifyHead, splitToo]
    rfl
  rw [terms?, split] at read
  rw [terms?, splitToo] at readToo
  obtain ⟨frontTerms, operands, readFront, readLast, rfl⟩ := mapM_concat_eq_some_iff.mp read
  obtain ⟨operandsToo, laterTerms, readFirst, readLater, rfl⟩ := mapM_cons_eq_some_iff.mp readToo
  have joined := operands?_append readLast readFirst
  rw [terms?, splitOnP_append split behind, meet, List.modifyLast_concat, List.append_assoc]
  exact mapM_append_eq_some_iff.mpr ⟨frontTerms, _, readFront,
    mapM_cons_eq_some_iff.mpr ⟨_, _, joined, readLater, rfl⟩, rfl⟩

theorem length_of_terms? (read : terms? pieces = some terms) :
    terms.length = pieces.countP (Piece.isMark '|') + 1 := by
  rw [← length_splitOnP]
  exact (mapM_eq_some_iff.mp read).length_eq.symm

theorem length_of_operands? {operands : List TypeExpr} (read : operands? pieces = some operands) :
    operands.length = pieces.countP (Piece.isMark '&') + 1 := by
  rw [← length_splitOnP]
  exact (mapM_eq_some_iff.mp read).length_eq.symm

/-- Every alternative has an operand. -/
theorem forall_terms?_ne_nil (read : terms? pieces = some terms) :
    ∀ operands ∈ terms, operands ≠ [] := by
  rw [terms?, mapM_eq_some_iff] at read
  generalize pieces.splitOnP (Piece.isMark '|') = parts at read
  induction read with
  | nil => exact List.forall_mem_nil _
  | cons here _ inductionHypothesis =>
      have filled := List.ne_nil_of_length_eq_add_one (length_of_operands? here)
      exact List.forall_mem_cons.mpr ⟨filled, inductionHypothesis⟩

/-- The piece is an operator between types. -/
def Piece.isOperator (piece : Piece) : Bool :=
  piece.isMark '|' || piece.isMark '&'

theorem forall_isMark_eq_false_iff {sign : Char} :
    (∀ piece ∈ pieces, piece.isMark sign = false) ↔ pieces.countP (Piece.isMark sign) = 0 := by
  rw [List.countP_eq_zero]
  simp only [Bool.not_eq_true]

/-- Pieces write a single operand exactly if there is no operator among them. -/
theorem exists_eq_singleton_iff (read : terms? pieces = some terms) :
    (∃ type, terms = [[type]]) ↔ ∀ piece ∈ pieces, piece.isOperator = false := by
  have alternatives := length_of_terms? read
  have alone (noBar : ∀ piece ∈ pieces, piece.isMark '|' = false) :
      ∃ operands, operands? pieces = some operands ∧ terms = [operands] := by
    rw [terms?, List.splitOnP_eq_singleton noBar] at read
    exact mapM_singleton_eq_some_iff.mp read
  constructor
  · rintro ⟨type, rfl⟩ piece there
    rw [List.length_singleton] at alternatives
    have noBar := forall_isMark_eq_false_iff.mpr (Nat.succ.inj alternatives).symm
    obtain ⟨operands, whole, equal⟩ := alone noBar
    cases equal
    have joined := length_of_operands? whole
    rw [List.length_singleton] at joined
    have noAmpersand := forall_isMark_eq_false_iff.mpr (Nat.succ.inj joined).symm
    rw [Piece.isOperator, noBar piece there, noAmpersand piece there]
    rfl
  · intro plain
    have unmarked : ∀ piece ∈ pieces, piece.isMark '|' = false ∧ piece.isMark '&' = false :=
      fun piece there => Bool.or_eq_false_iff.mp (plain piece there)
    obtain ⟨operands, whole, rfl⟩ := alone (fun piece there => (unmarked piece there).1)
    have joined := List.splitOnP_eq_singleton (fun piece there => (unmarked piece there).2)
    rw [operands?, joined] at whole
    obtain ⟨type, _, rfl⟩ := mapM_singleton_eq_some_iff.mp whole
    exact ⟨type, rfl⟩

/-! ## Arrays -/

theorem operand?_array {type : TypeExpr} (read : operand? pieces = some type) :
    operand? (pieces ++ [.list []]) = some (.array type) := by
  have reversed : (pieces ++ [Piece.list []]).reverse = .list [] :: pieces.reverse := by simp
  rw [operand?, reversed]
  rw [operand?] at read
  cases later : pieces.reverse with
  | nil =>
      rw [later] at read
      cases read
  | cons piece before =>
      rw [later] at read
      rw [operandFromEnd?, read, Option.map_some]

/-- Behind pieces `[]` belongs to their last operand only. -/
theorem operands?_array {operands : List TypeExpr} (read : operands? pieces = some operands) :
    operands? (pieces ++ [.list []]) = some (operands.modifyLast .array) := by
  obtain ⟨front, last, split⟩ := exists_splitOnP_concat (Piece.isMark '&') pieces
  rw [operands?, split] at read
  obtain ⟨frontOperands, operand, readFront, readLast, rfl⟩ := mapM_concat_eq_some_iff.mp read
  have cut := splitOnP_append split (splitOnP_list _)
  rw [operands?, cut, List.modifyLast_concat]
  exact mapM_concat_eq_some_iff.mpr ⟨_, _, readFront, operand?_array readLast, rfl⟩

theorem terms?_array (read : terms? pieces = some terms) :
    terms? (pieces ++ [.list []]) =
      some (terms.modifyLast (fun operands => operands.modifyLast .array)) := by
  obtain ⟨front, last, split⟩ := exists_splitOnP_concat (Piece.isMark '|') pieces
  rw [terms?, split] at read
  obtain ⟨frontTerms, operands, readFront, readLast, rfl⟩ := mapM_concat_eq_some_iff.mp read
  have cut := splitOnP_append split (splitOnP_list _)
  rw [terms?, cut, List.modifyLast_concat]
  exact mapM_concat_eq_some_iff.mpr ⟨_, _, readFront, operands?_array readLast, rfl⟩

end Marks

end TypeExpr

end TypeScaffold
