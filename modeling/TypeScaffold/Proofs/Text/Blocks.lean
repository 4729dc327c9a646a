import Mathlib.Data.List.Forall2
import TypeScaffold.Proofs.Text.Lines

/-!
# Blocks of a text

A block is an opening line, one line for each of some names, and a closing brace. Texts that are put
together from lines have a block wherever its three parts follow one another.
-/

namespace TypeScaffold.Text

/-- The line gives something under the name. A question mark says that it may be missing. -/
def IsEntry (name line : String) : Prop :=
  ∃ rest, line = "  " ++ name ++ ": " ++ rest ∨ line = "  " ++ name ++ "?: " ++ rest

/-- The text has a block with the opening line and with one line for each of the names in order. -/
def HasBlock (text opening : String) (names : List String) : Prop :=
  ∃ lines, HasLineStart text (unlines [opening, unlines lines, r"}"]) ∧
    List.Forall₂ IsEntry names lines

theorem unlines_append {front behind : List String} (filled : front ≠ []) (more : behind ≠ []) :
    unlines (front ++ behind) = unlines front ++ "\n" ++ unlines behind :=
  String.intercalate_append_of_ne_nil filled more

theorem toList_unlines_append {front : List String} (filled : front ≠ []) (behind : List String) :
    (unlines (front ++ behind)).toList =
      (unlines front).toList ++ behind.flatMap (fun line => '\n' :: line.toList) := by
  induction behind generalizing front with
  | nil => rw [List.append_nil, List.flatMap_nil, List.append_nil]
  | cons line behind inductionHypothesis =>
      have step : front ++ line :: behind = front ++ [line] ++ behind := by simp
      rw [step, inductionHypothesis (List.append_ne_nil_of_left_ne_nil filled [line]),
        unlines_append filled (List.cons_ne_nil line []), List.flatMap_cons,
        String.toList_append, String.toList_append, List.append_assoc, List.append_assoc]
      rfl

theorem head?_unlines {line : String} {c : Char} (begins : line.toList.head? = some c)
    (lines : List String) : (unlines (line :: lines)).toList.head? = some c := by
  have split := toList_unlines_append (List.cons_ne_nil line []) lines
  rw [List.singleton_append] at split
  rw [split, unlines, String.intercalate_singleton, List.head?_append, begins]
  rfl

theorem getLast?_unlines {lines : List String} {last : String} {c : Char}
    (ends : lines.getLast? = some last) (inLast : last.toList.getLast? = some c) :
    (unlines lines).toList.getLast? = some c := by
  rw [← List.dropLast_append_getLast? last ends]
  by_cases filled : lines.dropLast = []
  · rw [filled, List.nil_append, unlines, String.intercalate_singleton, inLast]
  · rw [toList_unlines_append filled, List.flatMap_singleton, List.getLast?_append,
      List.getLast?_cons, inLast]
    rfl

/-- Lines that follow one another begin where the first of them does. -/
theorem hasLineStart_unlines_append
    (front : List String) {block : List String} (behind : List String) (filled : block ≠ []) :
    HasLineStart (unlines (front ++ block ++ behind)) (unlines block) := by
  have starts : HasLineStart (unlines (block ++ behind)) (unlines block) := by
    by_cases last : behind = []
    · rw [last, List.append_nil]
      exact ⟨"", "", by rw [String.empty_append, String.append_empty], Or.inl rfl⟩
    · refine ⟨"", "\n" ++ unlines behind, ?_, Or.inl rfl⟩
      rw [unlines_append filled last, String.empty_append, String.append_assoc]
  by_cases first : front = []
  · simpa only [first, List.nil_append] using starts
  · have more : block ++ behind ≠ [] := List.append_ne_nil_of_left_ne_nil filled behind
    rw [List.append_assoc, unlines_append first more]
    exact starts.behind (unlines front)

theorem forall₂_isEntry_map {α : Type} {name line : α → String}
    (entry : ∀ item, IsEntry (name item) (line item)) (items : List α) :
    List.Forall₂ IsEntry (items.map name) (items.map line) := by
  rw [List.forall₂_map_left_iff, List.forall₂_map_right_iff, List.forall₂_same]
  intro item _
  exact entry item

theorem hasBlock_unlines {α : Type} {name line : α → String}
    (entry : ∀ item, IsEntry (name item) (line item)) (front : List String) (opening : String)
    (items : List α) (behind : List String) :
    HasBlock (unlines (front ++ [opening, unlines (items.map line), r"}"] ++ behind)) opening
      (items.map name) := by
  refine ⟨items.map line, ?_, forall₂_isEntry_map entry items⟩
  exact hasLineStart_unlines_append front behind (List.cons_ne_nil _ _)

end TypeScaffold.Text
