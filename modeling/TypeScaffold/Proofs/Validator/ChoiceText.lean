import TypeScaffold.Proofs.Json.Quoted
import TypeScaffold.Proofs.Model.Choice
import TypeScaffold.Proofs.Model.Resolve
import TypeScaffold.Proofs.Text.Endings
import TypeScaffold.Validator.OfType

/-!
# The texts that a validator lists

The source text of a choice is a list of quoted texts. Read as strings of a document, these are the
texts of the choice in order.
-/

namespace TypeScaffold

open Text

namespace Validator

/-- The strings of a list up to where the list and the call around it end. -/
def listedTexts? (chars : List Char) : Option (List String) :=
  match _ : Json.quoted? chars with
  | some (content, [']', ')']) => some [String.ofList content]
  | some (content, ',' :: ' ' :: rest) =>
      (listedTexts? rest).map (fun texts => String.ofList content :: texts)
  | _ => none
termination_by chars.length
decreasing_by
  rename_i read
  have shorter := Json.length_lt_of_quoted? read
  simp only [List.length_cons] at shorter
  omega

/-- The strings that the source text of a choice lists. -/
def choiceTexts? (code : String) : Option (List String) :=
  ("z.enum([".toList.isPrefixOf? code.toList).bind listedTexts?

theorem listedTexts?_last (text : String) :
    listedTexts? ((doubleQuoted text).toList ++ [']', ')']) = some [text] := by
  have read := Json.quoted?_doubleQuotedChars text.toList [']', ')']
  rw [toList_doubleQuoted, listedTexts?]
  split <;> simp_all

theorem listedTexts?_next (text : String) (rest : List Char) :
    listedTexts? ((doubleQuoted text).toList ++ ',' :: ' ' :: rest) =
      (listedTexts? rest).map (fun texts => text :: texts) := by
  have read := Json.quoted?_doubleQuotedChars text.toList (',' :: ' ' :: rest)
  rw [toList_doubleQuoted, listedTexts?]
  split <;> simp_all

theorem listedTexts?_intercalate {options : List String} (filled : options ≠ []) :
    listedTexts? ((", ".intercalate (options.map doubleQuoted)).toList ++ [']', ')']) =
      some options := by
  induction options with
  | nil => exact absurd rfl filled
  | cons option others inductionHypothesis =>
      by_cases last : others = []
      · subst last
        rw [List.map_singleton, String.intercalate_singleton]
        exact listedTexts?_last option
      · have more : others.map doubleQuoted ≠ [] := by simpa using last
        have text : (", ".intercalate ((option :: others).map doubleQuoted)).toList ++ [']', ')'] =
            (doubleQuoted option).toList ++ ',' :: ' ' ::
              ((", ".intercalate (others.map doubleQuoted)).toList ++ [']', ')']) := by
          rw [List.map_cons, String.intercalate_cons_of_ne_nil more]
          simp
        rw [text, listedTexts?_next, inductionHypothesis last]
        rfl

/-- The source text of a choice lists its texts in order. -/
theorem choiceTexts?_code {options : List String} (filled : options ≠ []) :
    choiceTexts? (Validator.choice options).code = some options := by
  have code : (Validator.choice options).code =
      "z.enum([" ++ ", ".intercalate (options.map doubleQuoted) ++ "])" :=
    rfl
  have closing : "])".toList = [']', ')'] := rfl
  rw [choiceTexts?, code, String.toList_append, String.toList_append, List.append_assoc, closing,
    isPrefixOf?_append, Option.bind_some]
  exact listedTexts?_intercalate filled

/-! ## Types with text options -/

/-- No literal of a text stands beside `undefined` or `null`. -/
theorem companion?_map_text (name : String) (options : List String) (images : List Validator) :
    companion? (TypeNode.isPrimitive name)
      (options.map (fun option => TypeNode.literal (.text option))) images = none := by
  have other (option : String) :
      (TypeNode.literal (.text option)).isPrimitive name = false :=
    rfl
  match options, images with
  | [first, second], [_, _] =>
      rw [List.map_cons, List.map_cons, List.map_nil, companion?, other, other]
      rfl
  | [], _ | [_], _ | _ :: _ :: _ :: _, _ | [_, _], [] | [_, _], [_] | [_, _], _ :: _ :: _ :: _ => rfl

theorem ofUnion_of_textChoices? {members : List TypeNode} {options : List String}
    (found : TypeNode.textChoices? members = some options) (validators : List Validator) :
    ofUnion members validators = .choice options := by
  have filled := (TypeNode.allOf_eq_some_iff.mp found).1
  have literals := TypeNode.eq_map_of_textChoices? found
  have required : TypeNode.optionalCore? members validators = none := by
    rw [literals]
    exact companion?_map_text "undefined" options validators
  have nonNull : TypeNode.nullableCore? members validators = none := by
    unfold TypeNode.nullableCore?
    split
    · rfl
    · rw [literals]
      exact companion?_map_text "null" options validators
  unfold ofUnion
  split
  · exact absurd rfl filled
  · rw [required, nonNull, found]

/-- A type that is a choice among texts has the validator that lists them. -/
theorem ofNode_of_textOptions? {node : TypeNode} {options : List String}
    (found : node.textOptions? = some options) : ofNode node = .choice options ∧ options ≠ [] := by
  unfold TypeNode.textOptions? at found
  split at found
  · rename_i members
    refine ⟨ofUnion_of_textChoices? found (ofNodes members), ?_⟩
    obtain ⟨filled, each⟩ := TypeNode.allOf_eq_some_iff.mp found
    rintro rfl
    exact filled (List.forall₂_nil_right_iff.mp each)
  · rename_i members name
    obtain ⟨filled, each⟩ := TypeNode.allOf_eq_some_iff.mp found
    refine ⟨?_, ?_⟩
    · rw [ofNode, ofEnumeration]
      · rw [mapM_eq_some_iff.mpr each]
      · exact filled
    · rintro rfl
      exact filled (List.forall₂_nil_right_iff.mp each)
  · cases found

/-- The source text of the validator for a choice among texts lists them in order. -/
theorem choiceTexts?_code_ofNode {node : TypeNode} {options : List String}
    (found : node.textOptions? = some options) :
    choiceTexts? (ofNode node).code = some options := by
  obtain ⟨validator, filled⟩ := ofNode_of_textOptions? found
  rw [validator]
  exact choiceTexts?_code filled

end Validator

end TypeScaffold
