import TypeScaffold.Proofs.Text.Indent
import TypeScaffold.Text.Quoted

/-!
# Block comments

A block comment ends at the first slash behind a star. A text whose stars and slashes have been parted
by blanks ends none, and it still ends none when its lines move to the right, so a comment around it is
closed by its own end only.
-/

namespace TypeScaffold.Text

/-- The characters that end a block comment. -/
def commentEnd : List Char :=
  ['*', '/']

/-- What a block comment holds up to its end, and what stands behind that. The opening has been
read. -/
def readComment? : List Char → Option (List Char × List Char)
  | [] => none
  | '*' :: '/' :: rest => some ([], rest)
  | c :: rest => (readComment? rest).map (fun (content, behind) => (c :: content, behind))

/-! ## Where a comment ends -/

theorem commentEnd_infix_cons_iff {c : Char} {rest : List Char} :
    commentEnd <:+: c :: rest ↔ c = '*' ∧ rest.head? = some '/' ∨ commentEnd <:+: rest := by
  have begins : commentEnd <+: c :: rest ↔ c = '*' ∧ rest.head? = some '/' := by
    rw [commentEnd, List.cons_prefix_cons, eq_comm]
    refine and_congr_right (fun _ => ?_)
    cases rest with
    | nil => simp
    | cons next others => simp [List.cons_prefix_cons, eq_comm]
  rw [List.infix_cons_iff, begins]

theorem commentEnd_infix_cons_of_ne {c : Char} (different : c ≠ '*') {rest : List Char} :
    commentEnd <:+: c :: rest ↔ commentEnd <:+: rest := by
  rw [commentEnd_infix_cons_iff]
  exact or_iff_right (fun begins => different begins.1)

theorem readComment?_cons {c : Char} {rest : List Char}
    (goesOn : ¬ (c = '*' ∧ rest.head? = some '/')) :
    readComment? (c :: rest) =
      (readComment? rest).map (fun (content, behind) => (c :: content, behind)) := by
  rw [readComment?]
  rintro others rfl rfl
  exact goesOn ⟨rfl, rfl⟩

/-- A comment is closed by the end that is written behind its content just when the content holds
none. -/
theorem readComment?_append_iff {content behind : List Char} :
    readComment? (content ++ (commentEnd ++ behind)) = some (content, behind) ↔
      ¬ commentEnd <:+: content := by
  induction content with
  | nil => exact iff_of_true rfl (by simp [commentEnd])
  | cons c content inductionHypothesis =>
      have next : c = '*' → ((content ++ (commentEnd ++ behind)).head? = some '/' ↔
          content.head? = some '/') := by
        intro _
        cases content with
        | nil => simp [commentEnd]
        | cons _ _ => rfl
      rw [List.cons_append, commentEnd_infix_cons_iff]
      by_cases ends : c = '*' ∧ content.head? = some '/'
      · obtain ⟨rfl, slash⟩ := ends
        obtain ⟨others, rfl⟩ := List.head?_eq_some_iff.mp slash
        refine iff_of_false ?_ (fun none => none (Or.inl ⟨rfl, slash⟩))
        intro read
        simp [readComment?] at read
      · have goesOn : ¬ (c = '*' ∧ (content ++ (commentEnd ++ behind)).head? = some '/') :=
          fun both => ends ⟨both.1, (next both.1).mp both.2⟩
        rw [readComment?_cons goesOn, or_iff_right ends, ← inductionHypothesis]
        simp

/-! ## Texts without a comment end -/

theorem head?_commentSafeChars (chars : List Char) :
    (commentSafeChars chars).head? = chars.head? := by
  unfold commentSafeChars
  split <;> rfl

theorem not_commentEnd_infix_commentSafeChars (chars : List Char) :
    ¬ commentEnd <:+: commentSafeChars chars := by
  fun_induction commentSafeChars chars with
  | case1 => simp [commentEnd]
  | case2 rest inductionHypothesis =>
      have blank : ¬ ('*' = '*' ∧ (' ' :: '/' :: commentSafeChars rest).head? = some '/') := by
        simp
      rw [commentEnd_infix_cons_iff, or_iff_right blank, commentEnd_infix_cons_of_ne (by decide),
        commentEnd_infix_cons_of_ne (by decide)]
      exact inductionHypothesis
  | case3 c rest parted inductionHypothesis =>
      rw [commentEnd_infix_cons_iff, head?_commentSafeChars]
      rintro (⟨rfl, slash⟩ | later)
      · obtain ⟨others, rfl⟩ := List.head?_eq_some_iff.mp slash
        exact parted others rfl rfl
      · exact inductionHypothesis later

theorem commentEnd_infix_append_blank_iff {chars : List Char} :
    commentEnd <:+: chars ++ [' '] ↔ commentEnd <:+: chars := by
  induction chars with
  | nil => simp [commentEnd, List.infix_cons_iff]
  | cons c rest inductionHypothesis =>
      rw [List.cons_append, commentEnd_infix_cons_iff, commentEnd_infix_cons_iff, inductionHypothesis]
      cases rest with
      | nil => simp
      | cons _ _ => rfl

/-! ## Lines moved to the right -/

theorem hangChars_cons (c : Char) (rest : List Char) :
    hangChars (c :: rest) = (if c = '\n' then ['\n', ' ', ' '] else [c]) ++ hangChars rest :=
  List.flatMap_cons

theorem head?_hangChars (chars : List Char) : (hangChars chars).head? = chars.head? := by
  cases chars with
  | nil => rfl
  | cons c rest =>
      rw [hangChars_cons]
      split
      · rename_i lineFeed
        rw [lineFeed]
        rfl
      · rfl

/-- The blanks in front of moved lines bring no star and no slash together, and part none. -/
theorem commentEnd_infix_hangChars_iff {chars : List Char} :
    commentEnd <:+: hangChars chars ↔ commentEnd <:+: chars := by
  induction chars with
  | nil => rfl
  | cons c rest inductionHypothesis =>
      rw [hangChars_cons]
      by_cases lineFeed : c = '\n'
      · have different : c ≠ '*' := by
          rw [lineFeed]
          decide
        rw [if_pos lineFeed, commentEnd_infix_cons_of_ne different, ← inductionHypothesis]
        simp only [List.cons_append, List.nil_append]
        rw [commentEnd_infix_cons_of_ne (by decide), commentEnd_infix_cons_of_ne (by decide),
          commentEnd_infix_cons_of_ne (by decide)]
      · rw [if_neg lineFeed, List.singleton_append, commentEnd_infix_cons_iff,
          commentEnd_infix_cons_iff, head?_hangChars, inductionHypothesis]

theorem toList_hang (text : String) : (hang text).toList = hangChars text.toList :=
  String.toList_ofList

theorem hang_append (first second : String) : hang (first ++ second) = hang first ++ hang second := by
  rw [← String.toList_inj, toList_hang, String.toList_append, String.toList_append, toList_hang,
    toList_hang, hangChars, hangChars, hangChars, List.flatMap_append]

theorem iterate_hang_append (depth : Nat) (first second : String) :
    hang^[depth] (first ++ second) = hang^[depth] first ++ hang^[depth] second := by
  induction depth with
  | zero => rfl
  | succ depth inductionHypothesis =>
      rw [Function.iterate_succ_apply', Function.iterate_succ_apply', Function.iterate_succ_apply',
        inductionHypothesis, hang_append]

/-- What is written for a value stays in its place when the lines move to the right. -/
theorem HasPlace.hang {α : Type} {code text : α → String} (place : HasPlace code text) :
    HasPlace (fun value => Text.hang (code value)) (fun value => Text.hang (text value)) := by
  obtain ⟨before, after, around⟩ := place
  refine ⟨Text.hang before, Text.hang after, ?_⟩
  intro value
  dsimp only
  rw [around, hang_append, hang_append]

/-! ## The comment with a text -/

/-- What a comment that shows a text holds, once its lines have been moved to the right the given
number of times. -/
def commentContent (depth : Nat) (shownText : String) : String :=
  hang^[depth] (" " ++ commentSafe shownText ++ " ")

theorem iterate_hang_comment (depth : Nat) (shownText : String) :
    hang^[depth] ("/* " ++ commentSafe shownText ++ " */") =
      "/*" ++ commentContent depth shownText ++ "*/" := by
  have fixed : ∀ words : String, hang words = words → hang^[depth] words = words :=
    fun words same => Function.iterate_fixed same depth
  have split : "/* " ++ commentSafe shownText ++ " */" =
      "/*" ++ (" " ++ commentSafe shownText ++ " ") ++ "*/" := by
    rw [← String.toList_inj]
    simp [String.toList_append]
  rw [split, iterate_hang_append, iterate_hang_append, fixed "/*" (by decide),
    fixed "*/" (by decide), commentContent]

theorem not_commentEnd_infix_commentContent (depth : Nat) (shownText : String) :
    ¬ commentEnd <:+: (commentContent depth shownText).toList := by
  induction depth with
  | zero =>
      have between : (commentContent 0 shownText).toList =
          ' ' :: (commentSafeChars shownText.toList ++ [' ']) := by
        simp [commentContent, String.toList_append, commentSafe]
      rw [between, commentEnd_infix_cons_of_ne (by decide), commentEnd_infix_append_blank_iff]
      exact not_commentEnd_infix_commentSafeChars shownText.toList
  | succ depth inductionHypothesis =>
      rw [commentContent, Function.iterate_succ_apply', toList_hang, commentEnd_infix_hangChars_iff]
      exact inductionHypothesis

/-- The comment is closed by its own end, whatever comes behind it. -/
theorem readComment?_commentContent (depth : Nat) (shownText : String) (behind : List Char) :
    readComment? ((commentContent depth shownText).toList ++ (commentEnd ++ behind)) =
      some ((commentContent depth shownText).toList, behind) :=
  readComment?_append_iff.mpr (not_commentEnd_infix_commentContent depth shownText)

end TypeScaffold.Text
