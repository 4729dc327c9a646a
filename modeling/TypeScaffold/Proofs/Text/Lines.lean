import TypeScaffold.Proofs.Text.Endings

/-!
# Places in texts

A text that depends on a value has a place for it if the value is written there and nowhere else. A
place stays one when more text is put around it. The lines that a text is put together from begin
lines of the text.
-/

namespace TypeScaffold.Text

/-- The text for a value is the code of the value between two texts that do not depend on it. -/
def HasPlace {α : Type} (code text : α → String) : Prop :=
  ∃ before after : String, ∀ value, text value = before ++ code value ++ after

variable {α : Type} {code text : α → String}

theorem HasPlace.refl (code : α → String) : HasPlace code code := by
  refine ⟨"", "", ?_⟩
  intro value
  rw [String.empty_append, String.append_empty]

theorem HasPlace.within (place : HasPlace code text) (front behind : String) :
    HasPlace code (fun value => front ++ text value ++ behind) := by
  obtain ⟨before, after, around⟩ := place
  refine ⟨front ++ before, after ++ behind, ?_⟩
  intro value
  simp only [around, String.append_assoc]

theorem HasPlace.followed (place : HasPlace code text) (behind : String) :
    HasPlace code (fun value => text value ++ behind) := by
  simpa only [String.empty_append] using place.within "" behind

theorem HasPlace.intercalate (place : HasPlace code text) (separator : String)
    (behind : List String) :
    ∀ front : List String,
      HasPlace code (fun value => separator.intercalate (front ++ text value :: behind))
  | [] => by
      by_cases last : behind = []
      · simpa only [last, List.nil_append, String.intercalate_singleton] using place
      · have placed := place.within "" (separator ++ separator.intercalate behind)
        simpa only [List.nil_append, String.intercalate_cons_of_ne_nil last, String.empty_append,
          String.append_assoc] using placed
  | first :: front => by
      have placed := (place.intercalate separator behind front).within (first ++ separator) ""
      have more : ∀ value, front ++ text value :: behind ≠ [] := by
        intro value empty
        simp at empty
      simpa only [List.cons_append, String.intercalate_cons_of_ne_nil (more _),
        String.append_empty] using placed

theorem HasPlace.unlines (place : HasPlace code text) (front behind : List String) :
    HasPlace code (fun value => Text.unlines (front ++ text value :: behind)) :=
  place.intercalate "\n" behind front

/-! ## Beginnings of lines -/

/-- The text has the words at the beginning of a line. -/
def HasLineStart (text words : String) : Prop :=
  ∃ before after, text = before ++ words ++ after ∧
    (before = "" ∨ before.endsWith "\n" = true)

theorem HasLineStart.behind {text words : String} (starts : HasLineStart text words)
    (front : String) : HasLineStart (front ++ "\n" ++ text) words := by
  obtain ⟨before, after, rfl, line⟩ := starts
  refine ⟨front ++ "\n" ++ before, after, by simp only [String.append_assoc], Or.inr ?_⟩
  rcases line with rfl | ended
  · rw [String.append_empty]
    exact endsWith_append front "\n"
  · rw [endsWith_iff_suffix] at ended ⊢
    rw [String.toList_append]
    exact ended.trans (List.suffix_append _ _)

/-- What a line begins with begins a line of the text. -/
theorem hasLineStart_unlines {lines : List String} {line words rest : String}
    (member : line ∈ lines) (begins : line = words ++ rest) : HasLineStart (unlines lines) words := by
  induction lines with
  | nil => cases member
  | cons head others inductionHypothesis =>
      by_cases last : others = []
      · subst last
        obtain rfl := List.mem_singleton.mp member
        rw [unlines, String.intercalate_singleton]
        exact ⟨"", rest, by rw [begins, String.empty_append], Or.inl rfl⟩
      · rw [unlines, String.intercalate_cons_of_ne_nil last]
        rcases List.mem_cons.mp member with rfl | later
        · refine ⟨"", rest ++ ("\n" ++ "\n".intercalate others), ?_, Or.inl rfl⟩
          rw [begins, String.empty_append]
          simp only [String.append_assoc]
        · exact (inductionHypothesis later).behind head

/-- The text exports a constant of the given name. -/
def Exports (text identifier : String) : Prop :=
  HasLineStart text ("export const " ++ identifier ++ " = ") ∨
    HasLineStart text ("export const " ++ identifier ++ ": ")

end TypeScaffold.Text
