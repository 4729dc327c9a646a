import Mathlib.Data.List.Infix
import TypeScaffold.Text.Lines

/-!
# How texts begin and end

A text that ends in one way does not end in another unless one ending is an ending of the other, and
the like for beginnings. Moving the lines of a text to the right leaves an ending as it is if the
ending has no blank and no line feed.
-/

namespace TypeScaffold.Text

/-! ## Beginnings -/

theorem isPrefixOf?_append (words rest : List Char) :
    words.isPrefixOf? (words ++ rest) = some rest :=
  List.isPrefixOf?_eq_some_iff_append_eq.mpr rfl

theorem startsWith_append (beginning behind : String) :
    (beginning ++ behind).startsWith beginning = true := by
  rw [String.startsWith_string_iff, String.toList_append]
  exact List.prefix_append _ _

theorem startsWith_append_append_iff {front text beginning : String} :
    (front ++ text).startsWith (front ++ beginning) = true ↔ text.startsWith beginning = true := by
  simp only [String.startsWith_string_iff, String.toList_append]
  exact List.prefix_append_right_inj front.toList

/-- Of two beginnings of one text the one is a beginning of the other. -/
theorem not_startsWith_append {head behind beginning : String}
    (shorter : ¬ head.toList <+: beginning.toList) (longer : ¬ beginning.toList <+: head.toList) :
    ¬ (head ++ behind).startsWith beginning = true := by
  rw [String.startsWith_string_iff, String.toList_append]
  intro starts
  rcases List.prefix_or_prefix_of_prefix (List.prefix_append head.toList behind.toList) starts
    with inside | inside
  · exact shorter inside
  · exact longer inside

/-! ## Endings -/

theorem endsWith_iff_suffix {ending text : String} :
    text.endsWith ending = true ↔ ending.toList <:+ text.toList := by
  rw [String.endsWith_eq_endsWith_toSlice, String.Slice.endsWith_string_iff, String.copy_toSlice]

theorem endsWith_append (front ending : String) : (front ++ ending).endsWith ending = true := by
  rw [endsWith_iff_suffix, String.toList_append]
  exact List.suffix_append _ _

/-- Of two endings of one text the one is an ending of the other. -/
theorem not_endsWith_append {front tail ending : String}
    (shorter : ¬ tail.toList <:+ ending.toList) (longer : ¬ ending.toList <:+ tail.toList) :
    ¬ (front ++ tail).endsWith ending = true := by
  rw [endsWith_iff_suffix, String.toList_append]
  intro ends
  rcases List.suffix_or_suffix_of_suffix (List.suffix_append front.toList tail.toList) ends
    with inside | inside
  · exact shorter inside
  · exact longer inside

theorem endsWith_append_append_iff {text ending tail : String} :
    (text ++ tail).endsWith (ending ++ tail) = true ↔ text.endsWith ending = true := by
  simp only [endsWith_iff_suffix, String.toList_append]
  constructor
  · intro ends
    obtain ⟨front, equal⟩ := ends
    rw [← List.append_assoc] at equal
    exact ⟨front, List.append_cancel_right equal⟩
  · intro ends
    obtain ⟨front, equal⟩ := ends
    exact ⟨front, by rw [← List.append_assoc, equal]⟩

/-- An ending without the given character lies behind the last such character. -/
theorem endsWith_behind_iff {front tail ending : String} {mark : Char}
    (unmarked : mark ∉ ending.toList) :
    (front ++ String.singleton mark ++ tail).endsWith ending = true ↔
      tail.endsWith ending = true := by
  simp only [endsWith_iff_suffix, String.toList_append, String.toList_singleton, List.append_assoc]
  constructor
  · intro ends
    have marked : mark :: tail.toList <:+ front.toList ++ ([mark] ++ tail.toList) :=
      List.suffix_append _ _
    rcases List.suffix_or_suffix_of_suffix ends marked with inside | inside
    · rcases List.suffix_cons_iff.mp inside with equal | behind
      · exact absurd (equal ▸ List.mem_cons_self) unmarked
      · exact behind
    · exact absurd (inside.subset List.mem_cons_self) unmarked
  · intro ends
    exact ends.trans (List.suffix_append_of_suffix (List.suffix_append [mark] tail.toList))

/-- An ending of one character is the last character of a text. -/
theorem not_endsWith_of_notMem {text last : String} (single : last.toList.length = 1)
    (absent : ∀ c ∈ last.toList, c ∉ text.toList) : ¬ text.endsWith last = true := by
  rw [endsWith_iff_suffix]
  intro ends
  obtain ⟨c, equal⟩ := List.length_eq_one_iff.mp single
  rw [equal] at ends absent
  exact absent c List.mem_cons_self (ends.subset List.mem_cons_self)

/-- If neither the tail ends in the last character of an ending nor the front in the ending, then
the whole text does not end so. -/
theorem not_endsWith_append_of_last {front tail stem last : String}
    (single : last.toList.length = 1) (behind : ¬ tail.endsWith last = true)
    (inFront : ¬ front.endsWith (stem ++ last) = true) :
    ¬ (front ++ tail).endsWith (stem ++ last) = true := by
  simp only [endsWith_iff_suffix, String.toList_append] at behind inFront ⊢
  intro ends
  have lastEnds : last.toList <:+ front.toList ++ tail.toList :=
    (List.suffix_append stem.toList last.toList).trans ends
  by_cases empty : tail.toList = []
  · rw [empty, List.append_nil] at ends
    exact inFront ends
  · apply behind
    refine List.suffix_of_suffix_length_le lastEnds (List.suffix_append _ _) ?_
    rw [single]
    exact List.length_pos_iff.mpr empty

/-! ## Lines moved to the right -/

private theorem concat_suffix_concat_iff {front chars : List Char} {final last : Char} :
    front ++ [final] <:+ chars ++ [last] ↔ final = last ∧ front <:+ chars := by
  rw [List.suffix_concat_iff]
  constructor
  · intro ends
    rcases ends with empty | ⟨rest, equal, inside⟩
    · simp at empty
    · obtain ⟨rfl, same⟩ := List.append_inj' equal rfl
      exact ⟨List.singleton_inj.mp same, inside⟩
  · intro ends
    obtain ⟨rfl, inside⟩ := ends
    exact Or.inr ⟨front, rfl, inside⟩

theorem suffix_hangChars_iff {ending chars : List Char}
    (flat : ∀ c ∈ ending, c ≠ '\n' ∧ c ≠ ' ') : ending <:+ hangChars chars ↔ ending <:+ chars := by
  induction chars using List.reverseRecOn generalizing ending with
  | nil => exact Iff.rfl
  | append_singleton chars last inductionHypothesis =>
      rcases List.eq_nil_or_concat ending with rfl | ⟨front, final, rfl⟩
      · simp
      rw [List.concat_eq_append] at flat ⊢
      obtain ⟨noFeed, noBlank⟩ := flat final (by simp)
      have flatFront : ∀ c ∈ front, c ≠ '\n' ∧ c ≠ ' ' :=
        fun c member => flat c (List.mem_append_left _ member)
      by_cases feed : last = '\n'
      -- The hung line ends in a blank and the other in a line feed, so neither ends so.
      · have hung : hangChars (chars ++ [last]) = (hangChars chars ++ ['\n', ' ']) ++ [' '] := by
          simp [hangChars, feed]
        rw [hung, concat_suffix_concat_iff, concat_suffix_concat_iff, feed]
        simp only [noFeed, noBlank, false_and]
      · have hung : hangChars (chars ++ [last]) = hangChars chars ++ [last] := by
          simp [hangChars, feed]
        rw [hung, concat_suffix_concat_iff, concat_suffix_concat_iff,
          inductionHypothesis flatFront]

theorem endsWith_hang_iff {ending text : String}
    (flat : ∀ c ∈ ending.toList, c ≠ '\n' ∧ c ≠ ' ') :
    (hang text).endsWith ending = true ↔ text.endsWith ending = true := by
  rw [endsWith_iff_suffix, endsWith_iff_suffix, hang, String.toList_ofList,
    suffix_hangChars_iff flat]

end TypeScaffold.Text
