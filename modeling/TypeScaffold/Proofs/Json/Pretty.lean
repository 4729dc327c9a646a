import TypeScaffold.Json.Pretty
import TypeScaffold.Proofs.Json.Lexemes

/-!
# Lexemes of a text on several lines

The text of a value on several lines is cut into the lexemes that the value consists of, however far
in it stands. Line feeds and blanks are its only characters that belong to no lexeme.
-/

namespace TypeScaffold.Json

mutual

/-- The kinds of the lexemes that a value consists of. -/
def tokens : Json → List Token
  | .null => [.scalar .null]
  | .bool value => [.scalar (.bool value)]
  | .int value => [.scalar (.int value)]
  | .float value => [.scalar (.float value)]
  | .text value => [.text value]
  | .list [] => [.openList, .closeList]
  | .list (item :: items) => .openList :: (tokens item ++ tokensOfItems items)
  | .object [] => [.openObject, .closeObject]
  | .object ((name, value) :: members) =>
      .openObject :: .text name :: .colon :: (tokens value ++ tokensOfMembers members)
termination_by structural json => json

/-- The kinds of the lexemes of further items and of the end of their list. -/
def tokensOfItems : List Json → List Token
  | [] => [.closeList]
  | item :: rest => .comma :: (tokens item ++ tokensOfItems rest)
termination_by structural items => items

/-- The kinds of the lexemes of further members and of the end of their object. -/
def tokensOfMembers : List (String × Json) → List Token
  | [] => [.closeObject]
  | (name, value) :: rest =>
      .comma :: .text name :: .colon :: (tokens value ++ tokensOfMembers rest)
termination_by structural members => members

end

mutual

/-- No number stands in the value. -/
def IsNumberless : Json → Prop
  | .int _ | .float _ => False
  | .list items => AreNumberless items
  | .object members => AreNumberlessMembers members
  | .null | .bool _ | .text _ => True
termination_by structural json => json

def AreNumberless : List Json → Prop
  | [] => True
  | item :: rest => IsNumberless item ∧ AreNumberless rest
termination_by structural items => items

def AreNumberlessMembers : List (String × Json) → Prop
  | [] => True
  | (_, value) :: rest => IsNumberless value ∧ AreNumberlessMembers rest
termination_by structural members => members

end

theorem areNumberless_iff {items : List Json} :
    AreNumberless items ↔ ∀ item ∈ items, item.IsNumberless := by
  induction items with
  | nil => simp [AreNumberless]
  | cons item rest inductionHypothesis => simp [AreNumberless, inductionHypothesis]

/-! ## Lexemes -/

section Lexemes

variable {dialect : Dialect}

theorem spells_freshLine (depth : Nat) : Spells dialect (freshLine depth).toList [] := by
  apply Spells.spaces
  intro c member
  have chars : (freshLine depth).toList = '\n' :: List.replicate (2 * depth) ' ' := by
    simp [freshLine]
  rw [chars] at member
  rcases List.mem_cons.mp member with rfl | blank
  · rfl
  · rw [List.eq_of_mem_replicate blank]
    rfl

/-- The name of a member on a fresh line, up to its value. -/
theorem spells_memberName (depth : Nat) (name : String) :
    Spells dialect (freshLine depth ++ Text.doubleQuoted name ++ ": ").toList
      [.text name, .colon] := by
  have blank : isSpace ' ' = true := rfl
  have named : Spells dialect _ _ := (spells_freshLine depth).append (Spells.doubleQuoted name)
  have whole := named.append (Spells.colon.append (Spells.space blank))
  simpa using whole

mutual

theorem spells_prettyAt (depth : Nat) : ∀ json : Json, json.IsNumberless →
    Spells dialect (json.prettyAt depth).toList json.tokens
  | .null, _ => by
      rw [prettyAt, tokens]
      exact Spells.wordNull
  | .bool true, _ => by
      rw [prettyAt, tokens]
      exact Spells.wordTrue
  | .bool false, _ => by
      rw [prettyAt, tokens]
      exact Spells.wordFalse
  | .int _, numberless | .float _, numberless => numberless.elim
  | .text value, _ => by
      rw [prettyAt, tokens]
      exact Spells.doubleQuoted value
  | .list [], _ => by
      rw [prettyAt, tokens]
      exact Spells.openList.append Spells.closeList
  | .list (item :: items), numberless => by
      have inside := spells_prettyItems (depth + 1) item items numberless.1 numberless.2
        ((spells_freshLine depth).append Spells.closeList)
      have whole := Spells.openList.append inside
      simpa [prettyAt, tokens] using whole
  | .object [], _ => by
      rw [prettyAt, tokens]
      exact Spells.openObject.append Spells.closeObject
  | .object ((name, value) :: members), numberless => by
      have inside := spells_prettyMembers (depth + 1) name value members numberless.1 numberless.2
        ((spells_freshLine depth).append Spells.closeObject)
      have whole := Spells.openObject.append inside
      simpa [prettyAt, tokens] using whole
termination_by json => sizeOf json

/-- Items with commas between them, and what closes their list. -/
theorem spells_prettyItems (depth : Nat) (item : Json) : ∀ items : List Json,
    item.IsNumberless → AreNumberless items → ∀ {close : List Char},
      Spells dialect close [.closeList] →
      Spells dialect ((",".intercalate (prettyItems depth (item :: items))).toList ++ close)
        (item.tokens ++ tokensOfItems items)
  | [], numberless, _, close, closes => by
      have first := (spells_freshLine depth).append (spells_prettyAt depth item numberless)
      have whole := first.append closes
      simpa [prettyItems, tokensOfItems] using whole
  | next :: rest, numberless, others, close, closes => by
      have first := (spells_freshLine depth).append (spells_prettyAt depth item numberless)
      have behind := spells_prettyItems depth next rest others.1 others.2 closes
      have whole := first.append (Spells.comma.append behind)
      simpa [prettyItems, tokensOfItems, String.intercalate_cons_cons] using whole
termination_by items => sizeOf (item :: items)

/-- Members with commas between them, and what closes their object. -/
theorem spells_prettyMembers (depth : Nat) (name : String) (value : Json) :
    ∀ members : List (String × Json),
      value.IsNumberless → AreNumberlessMembers members → ∀ {close : List Char},
      Spells dialect close [.closeObject] →
      Spells dialect
        ((",".intercalate (prettyMembers depth ((name, value) :: members))).toList ++ close)
        (.text name :: .colon :: (value.tokens ++ tokensOfMembers members))
  | [], numberless, _, close, closes => by
      have first := (spells_memberName depth name).append (spells_prettyAt depth value numberless)
      have whole := first.append closes
      simpa [prettyMembers, tokensOfMembers] using whole
  | (next, other) :: rest, numberless, others, close, closes => by
      have first := (spells_memberName depth name).append (spells_prettyAt depth value numberless)
      have behind := spells_prettyMembers depth next other rest others.1 others.2 closes
      have whole := first.append (Spells.comma.append behind)
      simpa [prettyMembers, tokensOfMembers, String.intercalate_cons_cons] using whole
termination_by members => sizeOf ((name, value) :: members)

end

end Lexemes

/-! ## Characters -/

/-- Line feeds are the only control characters of the text. -/
def IsLaidOut (text : String) : Prop :=
  ∀ c ∈ text.toList, c = '\n' ∨ 32 ≤ c.toNat

instance (text : String) : Decidable (IsLaidOut text) :=
  decidable_of_iff (text.toList.all (fun c => c == '\n' || Nat.ble 32 c.toNat) = true)
    (by simp [IsLaidOut])

namespace IsLaidOut

theorem append {first second : String} (laidOut : IsLaidOut first) (laidOutToo : IsLaidOut second) :
    IsLaidOut (first ++ second) := by
  intro c member
  rw [String.toList_append] at member
  exact (List.mem_append.mp member).elim (laidOut c) (laidOutToo c)

theorem intercalate {separator : String} (laidOut : IsLaidOut separator) :
    ∀ {pieces : List String}, (∀ piece ∈ pieces, IsLaidOut piece) →
      IsLaidOut (separator.intercalate pieces)
  | [], _ => by
      rw [String.intercalate_nil]
      decide
  | [only], each => by
      rw [String.intercalate_singleton]
      exact each only List.mem_cons_self
  | first :: second :: rest, each => by
      rw [String.intercalate_cons_cons]
      have behind := intercalate laidOut
        (fun piece there => each piece (List.mem_cons_of_mem first there))
      exact ((each first List.mem_cons_self).append laidOut).append behind

theorem doubleQuoted (text : String) : IsLaidOut (Text.doubleQuoted text) :=
  fun _ member => Or.inr (Text.le_toNat_of_mem_doubleQuoted member)

theorem freshLine (depth : Nat) : IsLaidOut (freshLine depth) := by
  intro c member
  simp only [Json.freshLine, String.toList_append, String.toList_ofList] at member
  rcases List.mem_append.mp member with lineFeed | blank
  · exact Or.inl (List.mem_singleton.mp lineFeed)
  · right
    rw [List.eq_of_mem_replicate blank]
    decide

end IsLaidOut

mutual

theorem isLaidOut_prettyAt (depth : Nat) : ∀ json : Json, json.IsNumberless →
    IsLaidOut (json.prettyAt depth)
  | .null, _ | .bool true, _ | .bool false, _ | .list [], _ | .object [], _ => by
      rw [prettyAt]
      decide
  | .int _, numberless | .float _, numberless => numberless.elim
  | .text value, _ => by
      rw [prettyAt]
      exact .doubleQuoted value
  | .list (item :: items), numberless => by
      have pieces := isLaidOut_prettyItems (depth + 1) (item :: items) numberless
      rw [prettyAt]
      exact ((IsLaidOut.append (by decide) (.intercalate (by decide) pieces)).append
        (.freshLine depth)).append (by decide)
  | .object (member :: members), numberless => by
      have pieces := isLaidOut_prettyMembers (depth + 1) (member :: members) numberless
      rw [prettyAt]
      exact ((IsLaidOut.append (by decide) (.intercalate (by decide) pieces)).append
        (.freshLine depth)).append (by decide)

theorem isLaidOut_prettyItems (depth : Nat) : ∀ items : List Json, AreNumberless items →
    ∀ piece ∈ prettyItems depth items, IsLaidOut piece
  | item :: rest, numberless, piece, member => by
      rw [prettyItems] at member
      rcases List.mem_cons.mp member with rfl | later
      · exact (IsLaidOut.freshLine depth).append (isLaidOut_prettyAt depth item numberless.1)
      · exact isLaidOut_prettyItems depth rest numberless.2 piece later

theorem isLaidOut_prettyMembers (depth : Nat) :
    ∀ members : List (String × Json), AreNumberlessMembers members →
    ∀ piece ∈ prettyMembers depth members, IsLaidOut piece
  | (name, value) :: rest, numberless, piece, member => by
      rw [prettyMembers] at member
      rcases List.mem_cons.mp member with rfl | later
      · have named := ((IsLaidOut.freshLine depth).append (.doubleQuoted name)).append
          (by decide : IsLaidOut ": ")
        exact named.append (isLaidOut_prettyAt depth value numberless.1)
      · exact isLaidOut_prettyMembers depth rest numberless.2 piece later

end

end TypeScaffold.Json
