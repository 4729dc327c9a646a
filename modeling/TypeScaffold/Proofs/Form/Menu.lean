import TypeScaffold.Form.Markup
import TypeScaffold.Proofs.Text.Attributes
import TypeScaffold.Proofs.Text.Blocks

/-!
# The choices that a select offers

The choices of a select are read from the component that it is laid out in: one element after the
other, each with an attribute for the text that it stands for. They are the listed texts just when
laying them out changes none of them.
-/

namespace TypeScaffold

open Text

namespace Widget

/-- The text of the choice that a text begins with, and what stands behind the choice. -/
def choice? (chars : List Char) : Option (List Char × List Char) := do
  let inTag ← "<MenuItem value=".toList.isPrefixOf? chars
  let (value, tagEnd) ← attribute? inTag
  let content ← ">".toList.isPrefixOf? tagEnd
  let behind ← "</MenuItem>".toList.isPrefixOf? (skipContent content)
  return (value, behind)

theorem choice?_eq_some_iff {chars value behind : List Char} :
    choice? chars = some (value, behind) ↔
      ∃ inTag content, chars = "<MenuItem value=".toList ++ inTag ∧
        attribute? inTag = some (value, ">".toList ++ content) ∧
        skipContent content = "</MenuItem>".toList ++ behind := by
  simp only [choice?, Option.bind_eq_bind, Option.bind_eq_some_iff, Option.pure_def,
    Option.some.injEq, Prod.mk.injEq, List.isPrefixOf?_eq_some_iff_append_eq]
  constructor
  · rintro ⟨inTag, rfl, ⟨_, _⟩, read, content, rfl, _, equal, rfl, rfl⟩
    exact ⟨inTag, content, rfl, read, equal.symm⟩
  · rintro ⟨inTag, content, rfl, read, equal⟩
    exact ⟨inTag, rfl, _, read, content, rfl, behind, equal.symm, rfl, rfl⟩

theorem length_lt_of_choice? {chars value behind : List Char}
    (read : choice? chars = some (value, behind)) : behind.length < chars.length := by
  obtain ⟨inTag, content, rfl, there, equal⟩ := choice?_eq_some_iff.mp read
  have inAttribute := length_lt_of_attribute? there
  have inContent := length_skipContent_le content
  rw [equal] at inContent
  simp only [List.length_append] at inAttribute inContent ⊢
  omega

/-- The choices that a text offers one after the other up to the end of the select. -/
def offered? (chars : List Char) : Option (List String) :=
  match _ : choice? (chars.dropWhile Json.isSpace) with
  | some (value, behind) => (offered? behind).map (fun choices => String.ofList value :: choices)
  | none =>
      if "</Select>".toList.isPrefixOf (chars.dropWhile Json.isSpace) then some [] else none
termination_by chars.length
decreasing_by
  rename_i read
  have shorter := length_lt_of_choice? read
  have skipped : (chars.dropWhile Json.isSpace).length ≤ chars.length :=
    (List.dropWhile_sublist _).length_le
  omega

theorem offered?_of_some {chars value behind : List Char}
    (read : choice? (chars.dropWhile Json.isSpace) = some (value, behind)) :
    offered? chars = (offered? behind).map (fun choices => String.ofList value :: choices) := by
  rw [offered?]
  split
  · rename_i found
    obtain ⟨rfl, rfl⟩ := Prod.mk.inj (Option.some.inj (read.symm.trans found))
    rfl
  · rename_i found
    rw [read] at found
    cases found

theorem offered?_of_none {chars : List Char}
    (read : choice? (chars.dropWhile Json.isSpace) = none) :
    offered? chars =
      if "</Select>".toList.isPrefixOf (chars.dropWhile Json.isSpace) then some [] else none := by
  rw [offered?]
  split
  · rename_i found
    rw [read] at found
    cases found
  · rfl

/-! ## Choices that are laid out -/

section Laid

variable {rest placed : List Char}

/-- The white space in front of a line is skipped. -/
theorem dropWhile_laidOut (width : Nat) {line : List Char} (begins : line.head? = some '<')
    (laid : LaidOut ('\n' :: (List.replicate width ' ' ++ line)) placed) :
    LaidOut line (placed.dropWhile Json.isSpace) := by
  obtain ⟨more, _, rfl, inLine⟩ := laid.of_lineEnd rfl (by decide)
  obtain ⟨_, rfl, later⟩ := inLine.of_blanks rfl
  obtain ⟨rest, rfl⟩ := List.head?_eq_some_iff.mp begins
  obtain ⟨behind, rfl, _⟩ := later.of_cons rfl
  have spaces : ∀ c ∈ '\n' :: (List.replicate more ' ' ++ List.replicate width ' '),
      Json.isSpace c = true := by
    intro c member
    rcases List.mem_cons.mp member with rfl | later
    · rfl
    · rcases List.mem_append.mp later with blank | blank <;>
        rw [List.eq_of_mem_replicate blank] <;> rfl
  have dropped : ('\n' :: (List.replicate more ' ' ++ (List.replicate width ' ' ++
      '<' :: behind))).dropWhile Json.isSpace = '<' :: behind := by
    rw [← List.append_assoc, ← List.cons_append, List.dropWhile_append_of_pos spaces]
    rfl
  rw [dropped]
  exact later

theorem toList_optionMarkup (option : String) :
    (optionMarkup option).toList = "<MenuItem value=".toList ++
      ((markupAttribute option).toList ++ '>' ::
        ((markupContent (title option)).toList ++ "</MenuItem>".toList)) := by
  have tagEnd : ">".toList = ['>'] := rfl
  unfold optionMarkup
  rw [String.toList_append, String.toList_append, String.toList_append, String.toList_append,
    tagEnd, List.append_assoc, List.append_assoc, List.append_assoc, List.singleton_append]

theorem choice?_laidOut {option : String}
    (laid : LaidOut ((optionMarkup option).toList ++ rest) placed) :
    ReadsBack (choice? placed) option rest := by
  rw [toList_optionMarkup, List.append_assoc, List.append_assoc] at laid
  obtain ⟨inTag, rfl, inside⟩ := laid.of_append (by decide : IsOneLine "<MenuItem value=")
  rcases attribute?_laidOut inside with ⟨steady, _, read, tagEnd⟩ | ⟨unsteady, unread⟩
  · rw [List.cons_append, List.append_assoc] at tagEnd
    obtain ⟨content, rfl, inContent⟩ := tagEnd.of_cons rfl
    have closingTag : "</MenuItem>".toList = '<' :: "/MenuItem>".toList := rfl
    rw [closingTag, List.cons_append] at inContent
    obtain ⟨_, skipped, closing⟩ := skipContent_laidOut inContent
    obtain ⟨behind, rfl, later⟩ := closing.of_append (by decide : IsOneLine "/MenuItem>")
    refine Or.inl ⟨steady, behind, ?_, later⟩
    exact choice?_eq_some_iff.mpr ⟨inTag, content, rfl, read, skipped⟩
  · refine Or.inr ⟨unsteady, fun behind read => ?_⟩
    obtain ⟨other, content, equal, there, _⟩ := choice?_eq_some_iff.mp read
    rw [List.append_cancel_left equal] at unread
    exact unread _ there

/-- The lines of a select behind its opening tag. -/
def menuLines (options ending : List String) : List String :=
  options.map (fun option => "    " ++ optionMarkup option) ++ "  </Select>" :: ending

/-- Nothing is offered where the select ends. -/
theorem offered?_end {ending : List String}
    (laid : LaidOut ((menuLines [] ending).flatMap (fun line => '\n' :: line.toList)) placed) :
    offered? placed = some [] := by
  have line : LaidOut ("</Select>".toList ++ ending.flatMap (fun line => '\n' :: line.toList))
      (placed.dropWhile Json.isSpace) :=
    dropWhile_laidOut 2 rfl laid
  obtain ⟨behind, equal, _⟩ := line.of_append (by decide : IsOneLine "</Select>")
  have read : choice? (placed.dropWhile Json.isSpace) = none := by
    refine Option.eq_none_iff_forall_ne_some.mpr (fun found there => ?_)
    obtain ⟨inTag, _, begins, _⟩ := choice?_eq_some_iff.mp there
    have different := (List.cons.inj (List.cons.inj (equal.symm.trans begins)).2).1
    exact absurd different (by decide)
  have closed : "</Select>".toList.isPrefixOf (placed.dropWhile Json.isSpace) = true := by
    rw [equal]
    exact List.isPrefixOf_iff_prefix.mpr (List.prefix_append _ _)
  rw [offered?_of_none read, if_pos closed]

/-- The choices that are offered are the listed ones just when all of these are steady. -/
theorem offered?_laidOut {options ending : List String}
    (laid : LaidOut ((menuLines options ending).flatMap (fun line => '\n' :: line.toList)) placed) :
    offered? placed = some options ↔ ∀ option ∈ options, IsSteady option := by
  induction options generalizing placed with
  | nil =>
      rw [offered?_end laid]
      simp
  | cons option options inductionHypothesis =>
      have line : LaidOut ((optionMarkup option).toList ++
          (menuLines options ending).flatMap (fun line => '\n' :: line.toList))
          (placed.dropWhile Json.isSpace) := by
        refine dropWhile_laidOut 4 (by rw [toList_optionMarkup]; rfl) ?_
        rw [menuLines, List.map_cons, List.cons_append, List.flatMap_cons,
          String.toList_append, List.cons_append, List.append_assoc] at laid
        exact laid
      rw [List.forall_mem_cons]
      rcases choice?_laidOut line with ⟨steady, behind, read, later⟩ | ⟨unsteady, unread⟩
      · rw [offered?_of_some read, String.ofList_toList, and_iff_right steady,
          ← inductionHypothesis later]
        simp
      · refine iff_of_false (fun offered => ?_) (fun steady => unsteady steady.1)
        cases read : choice? (placed.dropWhile Json.isSpace) with
        | none =>
            rw [offered?_of_none read] at offered
            split at offered <;> cases offered
        | some found =>
            obtain ⟨value, behind⟩ := found
            rw [offered?_of_some read, Option.map_eq_some_iff] at offered
            obtain ⟨_, _, equal⟩ := offered
            obtain ⟨rfl, _⟩ := List.cons.inj equal
            rw [String.toList_ofList] at unread
            exact unread behind read

/-! ## Selects that are laid out -/

theorem exists_opening (widget : Widget) :
    ∃ front, (unlines widget.selectOpening).toList = front ++ ['>'] ∧ widget.selectOpening ≠ [] := by
  obtain ⟨lines, filled, opening⟩ :
      ∃ lines, lines ≠ [] ∧ widget.selectOpening = lines ++ ["  >"] :=
    ⟨_, List.cons_ne_nil _ _, rfl⟩
  refine ⟨(unlines lines).toList ++ ['\n', ' ', ' '], ?_, ?_⟩
  · rw [opening, toList_unlines_append filled, List.append_assoc]
    rfl
  · rw [opening]
    exact List.append_ne_nil_of_left_ne_nil filled _

/-- A select that is laid out consists of its opening lines and of a menu, which offers the listed
choices just when all of these are steady. -/
theorem exists_menu {widget : Widget} {options : List String}
    (laid : LaidOut (widget.selectMarkup options).toList placed) :
    ∃ opening menu, placed = opening ++ menu ∧
      LaidOut (unlines widget.selectOpening).toList opening ∧
      (offered? menu = some options ↔ ∀ option ∈ options, IsSteady option) := by
  obtain ⟨front, tag, filled⟩ := widget.exists_opening
  have lines : (widget.selectMarkup options).toList = front ++ '>' ::
      (menuLines options widget.selectEnding.tail).flatMap (fun line => '\n' :: line.toList) := by
    unfold selectMarkup
    rw [List.append_assoc, toList_unlines_append filled, tag, List.append_assoc]
    rfl
  rw [lines] at laid
  obtain ⟨placedFront, menu, rfl, before, after⟩ := laid.split rfl
  refine ⟨placedFront ++ ['>'], menu, by simp, ?_, offered?_laidOut after⟩
  rw [tag]
  exact before

end Laid

end Widget

end TypeScaffold
