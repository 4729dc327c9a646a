import TypeScaffold.Proofs.Text.Indent

/-!
# Texts that are laid out anew

Moving a text right puts blanks behind its line ends and changes nothing else. A fragment that is
moved keeps its line feeds; where it is placed into a component every other line end becomes a line
feed too. What this does to a part of a text is said by one relation, whatever stands around the part.
-/

namespace TypeScaffold.Text

/-- `placed` is the text with a line feed and some blanks for each line end, where a carriage return
and a line feed can be one. If the lines `moves`, there is a blank unless nothing or another line end
follows. -/
inductive Relaid (ends : Char → Bool) (moves : Bool) : List Char → List Char → Prop where
  | nil : Relaid ends moves [] []
  | char {c : Char} {rest placed : List Char} (plain : ends c = false)
      (later : Relaid ends moves rest placed) : Relaid ends moves (c :: rest) (c :: placed)
  | lineEnd {c : Char} {rest placed : List Char} (width : Nat) (isEnd : ends c = true)
      (empty : moves = true → width = 0 → ∀ next ∈ rest.head?, ends next = true)
      (later : Relaid ends moves rest placed) :
      Relaid ends moves (c :: rest) ('\n' :: (List.replicate width ' ' ++ placed))
  | pair {rest placed : List Char} (width : Nat) (isReturn : ends '\r' = true)
      (isFeed : ends '\n' = true)
      (empty : moves = true → width = 0 → ∀ next ∈ rest.head?, ends next = true)
      (later : Relaid ends moves rest placed) :
      Relaid ends moves ('\r' :: '\n' :: rest) ('\n' :: (List.replicate width ' ' ++ placed))

/-- The character is a line feed. -/
def isLineFeed (c : Char) : Bool :=
  c = '\n'

/-- The text as a fragment that is moved. -/
abbrev Moved : List Char → List Char → Prop :=
  Relaid isLineFeed false

/-- The text as it stands in a component. -/
abbrev LaidOut : List Char → List Char → Prop :=
  Relaid endsLine true

/-- What holds of the last character of a text holds of that of its rest. -/
theorem forall_getLast?_of_cons {P : Char → Prop} {c : Char} {rest : List Char}
    (all : ∀ last ∈ (c :: rest).getLast?, P last) : ∀ last ∈ rest.getLast?, P last := by
  intro last member
  exact all last (by rw [List.getLast?_cons, Option.mem_def.mp member]; rfl)

namespace Relaid

variable {ends : Char → Bool} {moves : Bool} {text placed : List Char}

/-! ## Parts -/

/-- A character that ends no line stays where it is. -/
theorem of_cons {c : Char} {rest : List Char} (plain : ends c = false)
    (relaid : Relaid ends moves (c :: rest) placed) :
    ∃ placedRest, placed = c :: placedRest ∧ Relaid ends moves rest placedRest := by
  cases relaid with
  | char _ later => exact ⟨_, rfl, later⟩
  | lineEnd _ isEnd _ _ => rw [plain] at isEnd; cases isEnd
  | pair _ isReturn _ _ _ => rw [plain] at isReturn; cases isReturn

/-- Words on one line in front stay as they are. -/
theorem of_append {words rest : List Char} (oneLine : ∀ c ∈ words, ends c = false)
    (relaid : Relaid ends moves (words ++ rest) placed) :
    ∃ placedRest, placed = words ++ placedRest ∧ Relaid ends moves rest placedRest := by
  induction words generalizing placed with
  | nil => exact ⟨placed, rfl, relaid⟩
  | cons c words inductionHypothesis =>
      obtain ⟨plain, others⟩ := List.forall_mem_cons.mp oneLine
      obtain ⟨_, rfl, behind⟩ := of_cons plain relaid
      obtain ⟨placedRest, rfl, later⟩ := inductionHypothesis others behind
      exact ⟨placedRest, rfl, later⟩

/-- A text on one line stays as it is. -/
theorem eq_self (oneLine : ∀ c ∈ text, ends c = false) (relaid : Relaid ends moves text placed) :
    placed = text := by
  rw [← List.append_nil text] at relaid
  obtain ⟨placedRest, rfl, later⟩ := of_append oneLine relaid
  cases later
  exact List.append_nil text

/-- What stands on the two sides of a character that ends no line is laid out for itself. -/
theorem split {front behind : List Char} {c : Char}
    (relaid : Relaid ends moves (front ++ c :: behind) placed) (plain : ends c = false) :
    ∃ placedFront placedBehind, placed = placedFront ++ c :: placedBehind ∧
      Relaid ends moves (front ++ [c]) (placedFront ++ [c]) ∧
      Relaid ends moves behind placedBehind := by
  have sameHead (rest : List Char) : (rest ++ [c]).head? = (rest ++ c :: behind).head? := by
    cases rest <;> rfl
  generalize whole : front ++ c :: behind = text at relaid
  induction relaid generalizing front with
  | nil => exact absurd whole (List.append_ne_nil_of_right_ne_nil _ (List.cons_ne_nil _ _))
  | char plainFirst later inductionHypothesis =>
      cases front with
      | nil =>
          obtain ⟨rfl, rfl⟩ := List.cons.inj whole
          exact ⟨[], _, rfl, .char plain .nil, later⟩
      | cons first front =>
          obtain ⟨rfl, others⟩ := List.cons.inj whole
          obtain ⟨placedFront, placedBehind, rfl, before, after⟩ := inductionHypothesis others
          exact ⟨_ :: placedFront, placedBehind, rfl, .char plainFirst before, after⟩
  | lineEnd width isEnd empty later inductionHypothesis =>
      cases front with
      | nil =>
          obtain ⟨rfl, _⟩ := List.cons.inj whole
          rw [plain] at isEnd
          cases isEnd
      | cons first front =>
          rw [List.cons_append, List.cons.injEq] at whole
          obtain ⟨rfl, rfl⟩ := whole
          obtain ⟨placedFront, placedBehind, rfl, before, after⟩ := inductionHypothesis rfl
          refine ⟨'\n' :: (List.replicate width ' ' ++ placedFront), placedBehind, by simp, ?_, after⟩
          rw [← sameHead] at empty
          simpa using lineEnd width isEnd empty before
  | pair width isReturn isFeed empty later inductionHypothesis =>
      match front with
      | [] =>
          obtain ⟨rfl, _⟩ := List.cons.inj whole
          rw [plain] at isReturn
          cases isReturn
      | [_] =>
          obtain ⟨rfl, _⟩ := List.cons.inj (List.cons.inj whole).2
          rw [plain] at isFeed
          cases isFeed
      | first :: second :: front =>
          rw [List.cons_append, List.cons_append, List.cons.injEq, List.cons.injEq] at whole
          obtain ⟨rfl, rfl, rfl⟩ := whole
          obtain ⟨placedFront, placedBehind, rfl, before, after⟩ := inductionHypothesis rfl
          refine ⟨'\n' :: (List.replicate width ' ' ++ placedFront), placedBehind, by simp, ?_, after⟩
          rw [← sameHead] at empty
          simpa using pair width isReturn isFeed empty before

/-! ## Characters -/

/-- What is laid out has the characters that end no line, line feeds and blanks. -/
theorem of_mem (relaid : Relaid ends moves text placed) {c : Char} (member : c ∈ placed) :
    ends c = false ∧ c ∈ text ∨ c = '\n' ∨ c = ' ' := by
  induction relaid with
  | nil => cases member
  | char plain _ inductionHypothesis =>
      simp only [List.mem_cons] at member ⊢
      grind
  | lineEnd width _ _ _ inductionHypothesis =>
      simp only [List.mem_cons, List.mem_append, List.mem_replicate] at member ⊢
      grind
  | pair width _ _ _ _ inductionHypothesis =>
      simp only [List.mem_cons, List.mem_append, List.mem_replicate] at member ⊢
      grind

/-- A character that is neither blank nor a line end occurs as often as before. -/
theorem count_eq (relaid : Relaid ends moves text placed) {c : Char} (plain : ends c = false)
    (noFeed : c ≠ '\n') (noBlank : c ≠ ' ') : placed.count c = text.count c := by
  have blanks (width : Nat) : (List.replicate width ' ').count c = 0 :=
    List.count_eq_zero.mpr (fun there => noBlank (List.eq_of_mem_replicate there))
  have other {end' : Char} (isEnd : ends end' = true) : end' ≠ c := by
    rintro rfl
    rw [plain] at isEnd
    cases isEnd
  induction relaid with
  | nil => rfl
  | char _ _ inductionHypothesis =>
      rw [List.count_cons, List.count_cons, inductionHypothesis]
  | lineEnd width isEnd _ _ inductionHypothesis =>
      rw [List.count_cons_of_ne noFeed.symm, List.count_append, blanks, Nat.zero_add,
        inductionHypothesis, List.count_cons_of_ne (other isEnd)]
  | pair width isReturn isFeed _ _ inductionHypothesis =>
      rw [List.count_cons_of_ne noFeed.symm, List.count_append, blanks, Nat.zero_add,
        inductionHypothesis, List.count_cons_of_ne (other isReturn),
        List.count_cons_of_ne (other isFeed)]

theorem notMem {c : Char} (relaid : Relaid ends moves text placed) (plain : ends c = false)
    (noFeed : c ≠ '\n') (noBlank : c ≠ ' ') (fresh : c ∉ text) : c ∉ placed := by
  rw [← List.count_eq_zero] at fresh ⊢
  exact (relaid.count_eq plain noFeed noBlank).trans fresh

/-- A part in front of a character that does not have the character does not get it. -/
theorem notMem_front {front placedFront : List Char} {c : Char}
    (relaid : Relaid ends moves (front ++ [c]) (placedFront ++ [c])) (plain : ends c = false)
    (noFeed : c ≠ '\n') (noBlank : c ≠ ' ') (fresh : c ∉ front) : c ∉ placedFront := by
  have same := relaid.count_eq plain noFeed noBlank
  rw [List.count_append, List.count_append, Nat.add_right_cancel_iff] at same
  rw [← List.count_eq_zero] at fresh ⊢
  exact same.trans fresh

/-- A text whose line ends are line feeds gets no shorter when its lines move. If it keeps its length
and does not end in a line end, it has none. -/
theorem length_le (relaid : Relaid ends true text placed)
    (feeds : ∀ c ∈ text, ends c = true → c = '\n') :
    text.length ≤ placed.length ∧ (placed.length = text.length →
      (∀ last ∈ text.getLast?, ends last = false) → ∀ c ∈ text, ends c = false) := by
  induction relaid with
  | nil => exact ⟨Nat.le_refl _, fun _ _ _ member => nomatch member⟩
  | @char c rest placed plain later inductionHypothesis =>
      obtain ⟨longer, kept⟩ :=
        inductionHypothesis (fun x member => feeds x (List.mem_cons_of_mem c member))
      refine ⟨Nat.succ_le_succ longer, fun same plainLast => ?_⟩
      exact List.forall_mem_cons.mpr ⟨plain, kept (Nat.succ.inj same) (forall_getLast?_of_cons plainLast)⟩
  | @lineEnd c rest placed width isEnd empty later inductionHypothesis =>
      obtain ⟨longer, kept⟩ :=
        inductionHypothesis (fun x member => feeds x (List.mem_cons_of_mem c member))
      simp only [List.length_cons, List.length_append, List.length_replicate]
      refine ⟨by omega, fun same plainLast => ?_⟩
      -- No blank was put in, so a line end follows, which the rest does not have.
      have plainRest := kept (by omega) (forall_getLast?_of_cons plainLast)
      cases rest with
      | nil =>
          have plain := plainLast c rfl
          rw [isEnd] at plain
          cases plain
      | cons next rest =>
          have follows := empty rfl (by omega) next rfl
          rw [plainRest next List.mem_cons_self] at follows
          cases follows
  | pair width isReturn _ _ _ _ =>
      exact absurd (feeds '\r' List.mem_cons_self isReturn) (by decide)

/-- A text that does not end in a line end keeps its characters in a component just when it is a
single line. -/
theorem eq_iff_oneLine {front placedFront : List Char} {c : Char}
    (relaid : LaidOut (front ++ [c]) (placedFront ++ [c])) (plain : endsLine c = false) :
    placedFront = front ↔ ∀ x ∈ front, endsLine x = false := by
  constructor
  · rintro rfl x member
    have feeds : ∀ x ∈ placedFront ++ [c], endsLine x = true → x = '\n' := by
      intro x member isEnd
      rcases relaid.of_mem member with ⟨kept, _⟩ | rfl | rfl
      · rw [isEnd] at kept
        cases kept
      · rfl
      · cases isEnd
    refine (relaid.length_le feeds).2 rfl ?_ x (List.mem_append_left _ member)
    simpa using plain
  · intro oneLine
    have all : ∀ x ∈ front ++ [c], endsLine x = false := by
      simpa [or_imp, forall_and, plain] using oneLine
    exact List.append_cancel_right (relaid.eq_self all)

/-- A line end that is no carriage return becomes a line feed. -/
theorem of_lineEnd {c : Char} {rest : List Char} (isEnd : ends c = true) (noReturn : c ≠ '\r')
    (relaid : Relaid ends moves (c :: rest) placed) :
    ∃ width placedRest, placed = '\n' :: (List.replicate width ' ' ++ placedRest) ∧
      Relaid ends moves rest placedRest := by
  cases relaid with
  | char plain _ => rw [isEnd] at plain; cases plain
  | lineEnd width _ _ later => exact ⟨width, _, rfl, later⟩
  | pair _ _ _ _ _ => exact absurd rfl noReturn

/-! ## Laying out twice -/

/-- A moved text begins as the text does. -/
theorem head?_eq (moved : Moved text placed) : placed.head? = text.head? := by
  cases moved with
  | nil => rfl
  | char _ _ => rfl
  | lineEnd _ isEnd _ _ => rw [of_decide_eq_true isEnd]; rfl
  | pair _ isReturn _ _ _ => cases isReturn

/-- Blanks that are laid out stay in front. -/
theorem of_blanks {width : Nat} {rest : List Char} (blank : ends ' ' = false)
    (relaid : Relaid ends moves (List.replicate width ' ' ++ rest) placed) :
    ∃ placedRest, placed = List.replicate width ' ' ++ placedRest ∧
      Relaid ends moves rest placedRest := by
  refine of_append (fun c member => ?_) relaid
  rw [List.eq_of_mem_replicate member]
  exact blank

/-- The blanks that are put in by two moves add up. -/
theorem empty_of_blanks {width more : Nat} {rest middle : List Char}
    (moved : Moved rest middle)
    (empty : moves = true → width = 0 →
      ∀ next ∈ (List.replicate more ' ' ++ middle).head?, ends next = true) :
    moves = true → width + more = 0 → ∀ next ∈ rest.head?, ends next = true := by
  intro tight none
  obtain ⟨rfl, rfl⟩ : width = 0 ∧ more = 0 := by omega
  rw [← moved.head?_eq]
  exact empty tight rfl

/-- What is laid out of a moved text is laid out of the text. -/
theorem trans {middle : List Char} (first : Moved text middle)
    (second : Relaid ends moves middle placed) (feed : ends '\n' = true)
    (blank : ends ' ' = false) : Relaid ends moves text placed := by
  have joined (width more : Nat) (rest : List Char) :
      List.replicate width ' ' ++ (List.replicate more ' ' ++ rest) =
        List.replicate (width + more) ' ' ++ rest := by
    rw [← List.append_assoc, List.replicate_append_replicate]
  -- A carriage return and the line feed behind it go together, so the rest is not the tail.
  induction length : text.length using Nat.strong_induction_on generalizing text middle placed with
  | _ size inductionHypothesis =>
    subst length
    cases first with
    | nil => exact second
    | pair _ isReturn _ _ _ => cases isReturn
    | @char c rest middle plain later =>
        have shorter : rest.length < (c :: rest).length := Nat.lt_succ_self _
        cases second with
        | char plainToo laterToo =>
            exact .char plainToo (inductionHypothesis _ shorter later laterToo rfl)
        | lineEnd width isEnd empty laterToo =>
            rw [later.head?_eq] at empty
            exact .lineEnd width isEnd empty (inductionHypothesis _ shorter later laterToo rfl)
        | pair width isReturn isFeed empty laterToo =>
            cases later with
            | char plainFeed _ => cases plainFeed
            | pair _ isReturn _ _ _ => cases isReturn
            | @lineEnd next others _ more isEnd _ laterMoved =>
                obtain rfl := of_decide_eq_true isEnd
                have empties := empty_of_blanks laterMoved empty
                obtain ⟨placedRest, rfl, laterLaid⟩ := of_blanks blank laterToo
                rw [joined]
                exact .pair (width + more) isReturn isFeed empties
                  (inductionHypothesis _ (by simp only [List.length_cons]; omega) laterMoved
                    laterLaid rfl)
    | @lineEnd c rest middle more isEnd _ later =>
        obtain rfl := of_decide_eq_true isEnd
        have shorter : rest.length < ('\n' :: rest).length := Nat.lt_succ_self _
        cases second with
        | char plain _ => rw [feed] at plain; cases plain
        | lineEnd width _ empty laterToo =>
            have empties := empty_of_blanks later empty
            obtain ⟨placedRest, rfl, laterLaid⟩ := of_blanks blank laterToo
            rw [joined]
            exact .lineEnd (width + more) feed empties
              (inductionHypothesis _ shorter later laterLaid rfl)

end Relaid

/-! ## Moved lines -/

theorem exists_indentLine (width : Nat) (line : List Char) :
    ∃ blanks, indentLine width line = List.replicate blanks ' ' ++ line ∧
      (0 < width → blanks = 0 → line = []) := by
  cases line with
  | nil => exact ⟨0, rfl, fun _ _ => rfl⟩
  | cons c rest => exact ⟨width, rfl, fun positive none => absurd none (Nat.ne_of_gt positive)⟩

/-- The lines behind the first, each moved behind a line feed. -/
def movedLines (width : Nat) (lines : List (List Char)) : List Char :=
  lines.flatMap (fun line => '\n' :: indentLine width line)

theorem exists_movedLines_cons (width : Nat) (line : List Char) (lines : List (List Char)) :
    ∃ blanks, movedLines width (line :: lines) =
        '\n' :: (List.replicate blanks ' ' ++ (line ++ movedLines width lines)) ∧
      (0 < width → blanks = 0 → line = []) := by
  obtain ⟨blanks, indented, none⟩ := exists_indentLine width line
  refine ⟨blanks, ?_, none⟩
  rw [movedLines, List.flatMap_cons, indented, List.cons_append, List.append_assoc]
  rfl

theorem joinLines_indentLine (width : Nat) (first : List Char) (lines : List (List Char)) :
    joinLines (first :: lines.map (indentLine width)) = first ++ movedLines width lines := by
  rw [joinLines, joinWith_cons, List.flatMap_map]
  rfl

theorem moved_splitLines (width : Nat) : ∀ {chars line : List Char} {lines : List (List Char)},
    splitLines chars = line :: lines → Moved chars (line ++ movedLines width lines)
  | [], _, _, pieces => by
      obtain ⟨rfl, rfl⟩ := List.cons.inj pieces
      exact .nil
  | c :: rest, line, lines, pieces => by
      rw [splitLines, splitOn] at pieces
      obtain ⟨next, others, later⟩ := List.exists_cons_of_ne_nil (splitOn_ne_nil '\n' rest)
      have moved := moved_splitLines width later
      rw [later] at pieces
      split at pieces
      · rename_i isFeed
        obtain ⟨rfl, rfl⟩ := List.cons.inj pieces
        obtain ⟨blanks, moving, _⟩ := exists_movedLines_cons width next others
        rw [List.nil_append, moving]
        exact .lineEnd blanks (decide_eq_true isFeed) (absurd · Bool.false_ne_true) moved
      · rename_i other
        obtain ⟨rfl, rfl⟩ := List.cons.inj pieces
        exact .char (decide_eq_false other) moved

/-- A text that is indented is moved, with blanks in front of its first line. -/
theorem exists_moved_indent (width : Nat) (text : String) :
    ∃ blanks placed, (indent width text).toList = List.replicate blanks ' ' ++ placed ∧
      Moved text.toList placed := by
  obtain ⟨line, lines, pieces⟩ :=
    List.exists_cons_of_ne_nil (splitOn_ne_nil '\n' text.toList)
  obtain ⟨blanks, indented, _⟩ := exists_indentLine width line
  refine ⟨blanks, line ++ movedLines width lines, ?_, moved_splitLines width pieces⟩
  rw [indent, String.toList_ofList, splitLines, pieces, List.map_cons, joinLines_indentLine,
    indented, List.append_assoc]

/-- What the lines of the text are put together to in a component is the text laid out. The first line
is empty only if a line end comes first. -/
def HasLaidOutLines (width : Nat) (chars : List Char) : Prop :=
  ∃ line lines, paragraphs (chars ++ ['\n']) = line :: lines ∧
    LaidOut chars (line ++ movedLines width lines) ∧
    (line = [] → ∀ next ∈ chars.head?, endsLine next = true)

/-- A line end in front puts an empty line in front. -/
theorem HasLaidOutLines.behind_end {width : Nat} (positive : 0 < width) {chars rest : List Char}
    (behind : HasLaidOutLines width rest)
    (paragraphed : paragraphs (chars ++ ['\n']) = [] :: paragraphs (rest ++ ['\n']))
    (begins : ∀ next ∈ chars.head?, endsLine next = true)
    (laidOut : ∀ {blanks placed}, (true = true → blanks = 0 → ∀ next ∈ rest.head?,
      endsLine next = true) → LaidOut rest placed →
      LaidOut chars ('\n' :: (List.replicate blanks ' ' ++ placed))) :
    HasLaidOutLines width chars := by
  obtain ⟨next, others, later, inside, empty⟩ := behind
  obtain ⟨blanks, moving, none⟩ := exists_movedLines_cons width next others
  refine ⟨[], next :: others, by rw [paragraphed, later], ?_, fun _ => begins⟩
  rw [List.nil_append, moving]
  exact laidOut (fun _ zero => empty (none positive zero)) inside

theorem HasLaidOutLines.cons {width : Nat} {c : Char} {rest : List Char} (plain : endsLine c = false)
    (behind : HasLaidOutLines width rest) : HasLaidOutLines width (c :: rest) := by
  obtain ⟨next, others, later, laidOut, _⟩ := behind
  obtain ⟨line, lines, paragraphed, same | none⟩ := paragraphs_cons plain (rest ++ ['\n'])
  · obtain ⟨rfl, rfl⟩ := List.cons.inj (later.symm.trans same)
    exact ⟨c :: next, others, paragraphed, .char plain laidOut,
      fun empty => absurd empty (List.cons_ne_nil c next)⟩
  · rw [later] at none
    cases none

/-- A text has its lines laid out unless it ends in a carriage return. -/
theorem hasLaidOutLines {width : Nat} (positive : 0 < width) {chars : List Char}
    (ended : ∀ last ∈ chars.getLast?, last ≠ '\r') : HasLaidOutLines width chars := by
  -- A carriage return and the line feed behind it go together, so the rest is not the tail.
  induction length : chars.length using Nat.strong_induction_on generalizing chars with
  | _ size inductionHypothesis =>
    subst length
    cases chars with
    | nil => exact ⟨[], [], rfl, .nil, fun _ _ member => nomatch member⟩
    | cons c rest =>
        have shorter : rest.length < (c :: rest).length := Nat.lt_succ_self _
        have endedRest := forall_getLast?_of_cons ended
        cases ends : endsLine c with
        | false => exact (inductionHypothesis _ shorter endedRest rfl).cons ends
        | true =>
            have begins : ∀ next ∈ (c :: rest).head?, endsLine next = true := by
              rintro next ⟨⟩
              exact ends
            obtain ⟨behind, paragraphed, skipped⟩ := paragraphs_cons_of_endsLine ends (rest ++ ['\n'])
            rcases skipped with rfl | ⟨rfl, skipped⟩
            · exact (inductionHypothesis _ shorter endedRest rfl).behind_end positive paragraphed
                begins (.lineEnd _ ends)
            · cases rest with
              | nil => exact absurd rfl (ended '\r' rfl)
              | cons feed rest =>
                  obtain ⟨rfl, rfl⟩ := List.cons.inj skipped
                  have behind := inductionHypothesis _ (Nat.lt_succ_of_lt (Nat.lt_succ_self _))
                    (forall_getLast?_of_cons endedRest) rfl
                  exact behind.behind_end positive paragraphed begins (.pair _ ends rfl)

/-- A text that stands in a component as a block is laid out there, with blanks in front. -/
theorem exists_laidOut_indentBlock {width : Nat} (positive : 0 < width) {text : String}
    (ended : ∀ last ∈ text.toList.getLast?, last ≠ '\r') :
    ∃ placed, (indentBlock width text).toList = List.replicate width ' ' ++ placed ∧
      LaidOut text.toList placed := by
  obtain ⟨line, lines, paragraphed, laidOut, _⟩ := hasLaidOutLines positive ended
  refine ⟨line ++ movedLines width lines, ?_, laidOut⟩
  rw [indentBlock, paragraphed, String.toList_ofList, joinLines_indentLine]

/-! ## Elements that are moved and laid out -/

/-- The text has the element whose characters between the first and the last bracket are given, moved
right or not. -/
def HasMoved (core : List Char) (text : String) : Prop :=
  ∃ before moved after, text.toList = before ++ '<' :: (moved ++ '>' :: after) ∧
    Moved (core ++ ['>']) (moved ++ ['>'])

theorem moved_refl : ∀ text : List Char, Moved text text
  | [] => .nil
  | c :: rest => by
      cases isEnd : isLineFeed c with
      | false => exact .char isEnd (moved_refl rest)
      | true =>
          obtain rfl := of_decide_eq_true isEnd
          exact .lineEnd 0 isEnd (absurd · Bool.false_ne_true) (moved_refl rest)

theorem HasMoved.of_toList {core : List Char} {text : String}
    (element : text.toList = '<' :: (core ++ ['>'])) : HasMoved core text :=
  ⟨[], core, [], element, moved_refl _⟩

theorem spreads_hasMoved (core : List Char) : Spreads (HasMoved core) where
  outward := by
    rintro text part ⟨front, behind, whole⟩ ⟨before, moved, after, inside, relaid⟩
    refine ⟨front ++ before, moved, after ++ behind, ?_, relaid⟩
    rw [← whole, inside]
    simp only [List.append_assoc, List.cons_append]
  moved := by
    rintro text ⟨before, moved, after, inside, relaid⟩ width
    obtain ⟨blanks, placed, indented, again⟩ := exists_moved_indent width text
    rw [inside] at again
    obtain ⟨front, _, rfl, _, behindFront⟩ := again.split rfl
    obtain ⟨movedTwice, behind, rfl, between, _⟩ := behindFront.split rfl
    refine ⟨List.replicate blanks ' ' ++ front, movedTwice, behind, ?_, ?_⟩
    · rw [indented, List.append_assoc]
    · exact relaid.trans between rfl rfl

/-- An element that a text has is laid out where the text is. -/
theorem HasMoved.exists_laidOut {core placed : List Char} {text : String}
    (inside : HasMoved core text) (laidOut : LaidOut text.toList placed) :
    ∃ element, element <:+: placed ∧ LaidOut ('<' :: (core ++ ['>'])) element := by
  obtain ⟨before, moved, after, equal, relaid⟩ := inside
  rw [equal] at laidOut
  obtain ⟨front, _, rfl, _, behindFront⟩ := laidOut.split rfl
  obtain ⟨placedCore, behind, rfl, between, _⟩ := behindFront.split rfl
  refine ⟨'<' :: (placedCore ++ ['>']), ⟨front, behind, by simp⟩, .char rfl ?_⟩
  exact relaid.trans between rfl rfl

end TypeScaffold.Text
