import TypeScaffold.Proofs.Text.Blocks
import TypeScaffold.Proofs.Text.SingleQuoted
import TypeScaffold.Text.Casing

/-!
# Texts without line feeds

A text that is put together from lines without line feeds has exactly these lines. Putting texts
together and writing the first letter large makes no line feed.
-/

namespace TypeScaffold.Text

/-- The text holds no line feed. -/
def Unbroken (text : String) : Prop :=
  '\n' ∉ text.toList

instance (text : String) : Decidable (Unbroken text) :=
  inferInstanceAs (Decidable ('\n' ∉ text.toList))

theorem unbroken_append_iff {first second : String} :
    Unbroken (first ++ second) ↔ Unbroken first ∧ Unbroken second := by
  rw [Unbroken, Unbroken, Unbroken, String.toList_append, List.mem_append, not_or]

/-! ## Capital letters -/

theorem ofNat_ne_newline {code : Nat} (different : code ≠ 10) : Char.ofNat code ≠ '\n' := by
  intro equal
  by_cases valid : code.isValidChar
  · rw [Char.ofNat, dif_pos valid] at equal
    exact different (congrArg Char.toNat equal)
  · rw [Char.ofNat, dif_neg valid] at equal
    exact absurd equal (by decide)

open CaseTable in
/-- No capital letter is a line feed. -/
theorem shifted_upperRuns_ne {code : Nat} (different : code ≠ 10) :
    shifted upperRuns code ≠ 10 := by
  have above : ∀ run ∈ upperRuns, (10 : Int) < run.1 + run.2.2.2 := by decide +kernel
  rw [shifted]
  split
  · rename_i first last step shift found
    have later := above _ (List.mem_of_find?_eq_some found)
    have inside := List.find?_some found
    simp only [Bool.and_eq_true, decide_eq_true_eq] at inside later
    omega
  · exact different

open CaseTable in
theorem newline_notMem_upperChar {c : Char} (different : c ≠ '\n') : '\n' ∉ upperChar c := by
  have expanded : ∀ expansion ∈ upperExpansions, ∀ code ∈ expansion.2, code ≠ 10 := by
    decide +kernel
  have code : c.toNat ≠ 10 := fun equal => different (Char.toNat_inj.mp equal)
  rw [upperChar]
  split
  · rename_i codes found
    intro there
    obtain ⟨code, member, image⟩ := List.mem_map.mp there
    exact ofNat_ne_newline (expanded _ (List.mem_of_find?_eq_some found) code member) image
  · intro there
    exact ofNat_ne_newline (shifted_upperRuns_ne code) (List.mem_singleton.mp there).symm

theorem Unbroken.capitalize {text : String} (unbroken : Unbroken text) :
    Unbroken (capitalize text) := by
  rw [Unbroken] at unbroken
  rw [Unbroken, Text.capitalize, String.toList_ofList]
  cases characters : text.toList with
  | nil => exact List.not_mem_nil
  | cons c rest =>
      rw [characters, List.mem_cons, not_or] at unbroken
      rw [capitalizeChars, List.mem_append, not_or]
      exact ⟨newline_notMem_upperChar (Ne.symm unbroken.1), unbroken.2⟩

/-! ## Lines -/

/-- The lines of a text, which line feeds part. -/
def lines (text : String) : List String :=
  (splitLines text.toList).map String.ofList

/-- Lines without line feeds that are put behind a text are its last lines. -/
theorem lines_unlines_append {front behind : List String} (filled : front ≠ [])
    (unbroken : ∀ line ∈ behind, Unbroken line) :
    lines (unlines (front ++ behind)) = lines (unlines front) ++ behind := by
  have each : ∀ line ∈ behind.map String.toList, '\n' ∉ line := by
    intro line member
    obtain ⟨text, there, rfl⟩ := List.mem_map.mp member
    exact unbroken text there
  have split := splitLines_append_lines (unlines front).toList each
  rw [List.flatMap_map, ← toList_unlines_append filled behind] at split
  rw [lines, lines, split, List.map_append, List.map_map]
  congr 1
  exact (List.map_congr_left (fun _ _ => String.ofList_toList)).trans (List.map_id _)

/-- A part that consists of lines is these lines. -/
theorem unlines_append_unlines {front block behind : List String} (filled : front ≠ [])
    (blockFilled : block ≠ []) :
    unlines (front ++ unlines block :: behind) = unlines (front ++ block ++ behind) := by
  have inFront : unlines (front ++ [unlines block]) = unlines (front ++ block) := by
    rw [unlines_append filled (List.cons_ne_nil _ _), unlines_append filled blockFilled, unlines,
      unlines, String.intercalate_singleton]
  by_cases last : behind = []
  · rw [last, inFront, List.append_nil]
  · have step : front ++ unlines block :: behind = front ++ [unlines block] ++ behind := by simp
    have parted : front ++ [unlines block] ≠ [] := List.append_ne_nil_of_left_ne_nil filled _
    have merged : front ++ block ≠ [] := List.append_ne_nil_of_left_ne_nil filled _
    rw [step, unlines_append parted last, unlines_append merged last, inFront]

theorem unlines_append_last (front : List String) (last ending : String) :
    unlines (front ++ [last]) ++ ending = unlines (front ++ [last ++ ending]) := by
  by_cases filled : front = []
  · rw [filled]
    simp only [List.nil_append, unlines, String.intercalate_singleton]
  · rw [unlines_append filled (List.cons_ne_nil _ _), unlines_append filled (List.cons_ne_nil _ _)]
    simp only [unlines, String.intercalate_singleton, String.append_assoc]

end TypeScaffold.Text
