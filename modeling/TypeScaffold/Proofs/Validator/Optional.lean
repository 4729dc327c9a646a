import TypeScaffold.Proofs.Decimal.Spelling
import TypeScaffold.Proofs.Model.Resolve
import TypeScaffold.Proofs.Text.Endings
import TypeScaffold.Validator.OfType

/-!
# Validators that accept a missing value

A validator of a type accepts a missing value by its own form exactly if the type is optional. Its
text ends in `.optional()` exactly then, and never twice. The one exception is the intersection of a
single type, which has the validator of that type.
-/

namespace TypeScaffold

namespace Validator

/-- Whether the validator accepts a missing value by its own form. -/
def isOptional : Validator → Bool
  | .optional _ => true
  | _ => false

/-- Whether the validator says twice that a value may be missing. -/
def isTwiceOptional : Validator → Bool
  | .optional inner => inner.isOptional
  | _ => false

/-- The validator of a property. -/
def ofProperty (property : Property) : Validator :=
  if property.optional then (ofNode property.type).asOptional else ofNode property.type

@[simp]
theorem isOptional_asOptional (validator : Validator) : validator.asOptional.isOptional = true := by
  cases validator <;> rfl

@[simp]
theorem asOptional_asOptional (validator : Validator) :
    validator.asOptional.asOptional = validator.asOptional := by
  cases validator <;> rfl

theorem isTwiceOptional_asOptional {validator : Validator}
    (once : validator.isTwiceOptional = false) : validator.asOptional.isTwiceOptional = false := by
  cases validator with
  | optional inner => exact once
  | _ => rfl

theorem ofNodes_eq_map (nodes : List TypeNode) : ofNodes nodes = nodes.map ofNode := by
  induction nodes with
  | nil => rfl
  | cons node rest inductionHypothesis => rw [ofNodes, List.map_cons, inductionHypothesis]

theorem ofProperties_eq_map (properties : List Property) :
    ofProperties properties =
      properties.map (fun property => (property.name, ofProperty property)) := by
  induction properties with
  | nil => rfl
  | cons property rest inductionHypothesis =>
      rw [ofProperties, List.map_cons, inductionHypothesis]
      rfl

/-! ## Unions -/

theorem optionalCore?_ofNodes (members : List TypeNode) :
    TypeNode.optionalCore? members (ofNodes members) =
      (TypeNode.optionalCore? members members).map ofNode := by
  rw [TypeNode.optionalCore?, TypeNode.optionalCore?, ofNodes_eq_map, companion?_map]

theorem ofUnion_of_eq_some {members : List TypeNode} {validators : List Validator}
    {core : Validator} (found : TypeNode.optionalCore? members validators = some core) :
    ofUnion members validators = core.asOptional := by
  cases members with
  | nil => cases found
  | cons first rest => simp only [ofUnion, found]

/-- A union without a core has a validator that does not accept a missing value by its form. -/
theorem isOptional_ofUnion_of_eq_none {members : List TypeNode} {validators : List Validator}
    (required : TypeNode.optionalCore? members validators = none) :
    (ofUnion members validators).isOptional = false := by
  cases members with
  | nil => rfl
  | cons first rest =>
      simp only [ofUnion, required]
      split
      · rfl
      · split
        · rfl
        · split <;> rfl

/-- The validator of an optional type is that of its core, made optional. -/
theorem ofNode_of_unwrapOptional? {node core : TypeNode}
    (unwrapped : node.unwrapOptional? = some core) : ofNode node = (ofNode core).asOptional := by
  cases node with
  | union members =>
      change TypeNode.optionalCore? members members = some core at unwrapped
      apply ofUnion_of_eq_some
      rw [optionalCore?_ofNodes, unwrapped, Option.map_some]
  | _ => cases unwrapped

/-! ## Intersections -/

theorem exists_foldl_both :
    ∀ (validators : List Validator) (left right : Validator),
      ∃ last others, (right :: validators).foldl .both left = .both others last
  | [], left, right => ⟨right, left, rfl⟩
  | next :: rest, left, right => by
      rw [List.foldl_cons]
      exact exists_foldl_both rest (.both left right) next

/-- The validator that asks for all of two or more is a conjunction. -/
theorem exists_all_eq_both (first second : Validator) (rest : List Validator) :
    ∃ others last, all (first :: second :: rest) = .both others last := by
  obtain ⟨last, others, equal⟩ := exists_foldl_both rest first second
  exact ⟨others, last, equal⟩

/-! ## Validators of types -/

theorem isOptional_ofPrimitive (name : String) : (ofPrimitive name).isOptional = false := by
  unfold ofPrimitive
  split <;> rfl

theorem isOptional_ofRawText (rawText : Option String) :
    (ofRawText rawText).isOptional = false := by
  unfold ofRawText
  split <;> rfl

theorem isOptional_ofEnumeration (members : List EnumMember) :
    (ofEnumeration members).isOptional = false := by
  unfold ofEnumeration
  split
  · rfl
  · split <;> rfl

/-- Apart from intersections of one type, exactly the optional types have validators that accept a
missing value by their form. -/
theorem isOptional_ofNode {node : TypeNode} (several : ∀ member, node ≠ .intersection [member]) :
    (ofNode node).isOptional = node.unwrapOptional?.isSome := by
  match node with
  | .primitive name => rw [ofNode, isOptional_ofPrimitive]; rfl
  | .literal _ => rfl
  | .array none => rfl
  | .array (some _) => rfl
  | .tuple _ => rfl
  | .union members =>
      cases unwrapped : (TypeNode.union members).unwrapOptional? with
      | some core => rw [ofNode_of_unwrapOptional? unwrapped, isOptional_asOptional, Option.isSome_some]
      | none =>
          change TypeNode.optionalCore? members members = none at unwrapped
          rw [ofNode, Option.isSome_none]
          apply isOptional_ofUnion_of_eq_none
          rw [optionalCore?_ofNodes, unwrapped, Option.map_none]
  | .intersection [] => rfl
  | .intersection [member] => exact absurd rfl (several member)
  | .intersection (first :: second :: rest) =>
      obtain ⟨others, last, equal⟩ :=
        exists_all_eq_both (ofNode first) (ofNode second) (ofNodes rest)
      rw [ofNode, ofNodes, ofNodes, equal]
      rfl
  | .object _ _ => rfl
  | .reference _ => rfl
  | .enumeration members _ => rw [ofNode, isOptional_ofEnumeration]; rfl
  | .record (some _) (some _) => rfl
  | .record none _ => rfl
  | .record (some _) none => rfl
  | .function => rfl
  | .unknown rawText => rw [ofNode, isOptional_ofRawText]; rfl

theorem isTwiceOptional_of_isOptional_eq_false {validator : Validator}
    (required : validator.isOptional = false) : validator.isTwiceOptional = false := by
  cases validator with
  | optional inner => cases required
  | _ => rfl

mutual

/-- No validator of a type says twice that a value may be missing. -/
theorem isTwiceOptional_ofNode : ∀ node : TypeNode, (ofNode node).isTwiceOptional = false
  | .primitive name => isTwiceOptional_of_isOptional_eq_false (isOptional_ofPrimitive name)
  | .literal _ => rfl
  | .array none => rfl
  | .array (some _) => rfl
  | .tuple _ => rfl
  | .union members => by
      cases found : TypeNode.optionalCore? members (ofNodes members) with
      | none =>
          rw [ofNode]
          exact isTwiceOptional_of_isOptional_eq_false (isOptional_ofUnion_of_eq_none found)
      | some core =>
          have once := isTwiceOptional_of_mem_ofNodes members core (mem_of_companion? found)
          rw [ofNode, ofUnion_of_eq_some found]
          exact isTwiceOptional_asOptional once
  | .intersection [] => rfl
  | .intersection [member] => isTwiceOptional_ofNode member
  | .intersection (first :: second :: rest) => by
      obtain ⟨others, last, equal⟩ :=
        exists_all_eq_both (ofNode first) (ofNode second) (ofNodes rest)
      rw [ofNode, ofNodes, ofNodes, equal]
      rfl
  | .object _ _ => rfl
  | .reference _ => rfl
  | .enumeration members _ =>
      isTwiceOptional_of_isOptional_eq_false (isOptional_ofEnumeration members)
  | .record (some _) (some _) => rfl
  | .record none _ => rfl
  | .record (some _) none => rfl
  | .function => rfl
  | .unknown rawText => isTwiceOptional_of_isOptional_eq_false (isOptional_ofRawText rawText)

theorem isTwiceOptional_of_mem_ofNodes :
    ∀ (nodes : List TypeNode), ∀ validator ∈ ofNodes nodes, validator.isTwiceOptional = false
  | [], _, member => by cases member
  | node :: rest, validator, member => by
      rw [ofNodes] at member
      rcases List.mem_cons.mp member with rfl | later
      · exact isTwiceOptional_ofNode node
      · exact isTwiceOptional_of_mem_ofNodes rest validator later

end

/-! ## Validators of properties -/

/-- The validator of a property depends on its type without `undefined` and on whether the property
is optional, not on how that is written. -/
theorem ofProperty_eq (property : Property) :
    ofProperty property =
      if property.isOptional then (ofNode property.type.withoutUndefined).asOptional
      else ofNode property.type.withoutUndefined := by
  rw [ofProperty, PropertyOf.isOptional]
  cases unwrapped : property.type.unwrapOptional? with
  | none =>
      rw [TypeNode.withoutUndefined_of_eq_none unwrapped, Option.isSome_none, Bool.or_false]
  | some core =>
      rw [TypeNode.withoutUndefined_of_eq_some unwrapped, ofNode_of_unwrapOptional? unwrapped,
        asOptional_asOptional, ite_self, Option.isSome_some, Bool.or_true, if_pos rfl]

theorem isOptional_ofProperty {property : Property}
    (several : ∀ member, property.type ≠ .intersection [member]) :
    (ofProperty property).isOptional = property.isOptional := by
  rw [ofProperty, PropertyOf.isOptional]
  cases property.optional with
  | true => rw [if_pos rfl, isOptional_asOptional, Bool.true_or]
  | false => rw [if_neg Bool.false_ne_true, isOptional_ofNode several, Bool.false_or]

theorem isTwiceOptional_ofProperty (property : Property) :
    (ofProperty property).isTwiceOptional = false := by
  rw [ofProperty]
  split
  · exact isTwiceOptional_asOptional (isTwiceOptional_ofNode property.type)
  · exact isTwiceOptional_ofNode property.type

/-! ## Texts -/

theorem not_endsWith_parenthesis_of_scalar (value : Scalar) :
    ¬ value.code.endsWith "(" = true := by
  have noNumeral : ∀ c ∈ "(".toList, ¬ Decimal.NumeralChar c := by
    intro c member
    obtain rfl : c = '(' := List.mem_singleton.mp member
    decide
  cases value with
  | bool truth =>
      rw [Text.endsWith_iff_suffix]
      cases truth <;> decide
  | int whole =>
      apply Text.not_endsWith_of_notMem rfl
      intro c member there
      exact noNumeral c member ((Decimal.isNumeral_toString _).2 c there)
  | float number =>
      rw [Scalar.code]
      split
      · apply Text.not_endsWith_of_notMem rfl
        intro c member there
        exact noNumeral c member ((Decimal.isNumeral_toString _).2 c there)
      · cases number with
        | nan => rw [Text.endsWith_iff_suffix]; decide
        | infinity negative =>
            rw [Text.endsWith_iff_suffix]
            cases negative <;> decide
        | finite negative significand power canonical =>
            apply Text.not_endsWith_of_notMem rfl
            intro c member there
            exact noNumeral c member ((Decimal.isNumeral_text canonical).2 c there)
  | text content =>
      have quoted : Text.doubleQuoted content =
          String.ofList ('"' :: content.toList.flatMap Text.escapeChar) ++ "\"" := by
        rw [← String.toList_inj, String.toList_append, Text.doubleQuoted, String.toList_ofList,
          String.toList_ofList]
        rfl
      rw [Scalar.code, quoted]
      exact Text.not_endsWith_append (by decide) (by decide)

/-- No validator's text ends in an opening parenthesis. -/
theorem not_endsWith_parenthesis (validator : Validator) :
    ¬ validator.code.endsWith "(" = true := by
  cases validator with
  | object fields =>
      cases fields with
      | nil => rw [Text.endsWith_iff_suffix]; decide
      | cons _ _ => exact Text.not_endsWith_append (by decide) (by decide)
  | gap reason =>
      cases reason with
      | described _ => exact Text.not_endsWith_append (by decide) (by decide)
      | function => rw [Text.endsWith_iff_suffix]; decide
      | unrecognized _ =>
          change ¬ "z.unknown()".endsWith _ = true
          rw [Text.endsWith_iff_suffix]
          decide
  | unspecified => rw [Text.endsWith_iff_suffix]; decide
  | _ => exact Text.not_endsWith_append (by decide) (by decide)

private theorem not_endsWith_of_parenthesized {front inner : String}
    (behind : ¬ inner.endsWith "(" = true) (inFront : ¬ front.endsWith ".optional(" = true) :
    ¬ (front ++ inner ++ ")").endsWith optionalSuffix = true := by
  have suffix : optionalSuffix = ".optional" ++ "(" ++ ")" := rfl
  rw [suffix, Text.endsWith_append_append_iff]
  exact Text.not_endsWith_append_of_last rfl behind inFront

/-- The texts of the other validators end in another word or in something put in parentheses that is
not empty. -/
theorem not_endsWith_optionalSuffix {validator : Validator}
    (required : validator.isOptional = false) :
    ¬ validator.code.endsWith optionalSuffix = true := by
  cases validator with
  | optional inner => cases required
  | literal value =>
      apply not_endsWith_of_parenthesized (not_endsWith_parenthesis_of_scalar value)
      rw [Text.endsWith_iff_suffix]; decide
  | array element =>
      apply not_endsWith_of_parenthesized (not_endsWith_parenthesis element)
      rw [Text.endsWith_iff_suffix]; decide
  | both left right =>
      apply not_endsWith_of_parenthesized (not_endsWith_parenthesis right)
      exact Text.not_endsWith_append (by decide) (by decide)
  | record key value =>
      apply not_endsWith_of_parenthesized (not_endsWith_parenthesis value)
      exact Text.not_endsWith_append (by decide) (by decide)
  | builtin kind =>
      rw [Text.endsWith_iff_suffix]
      cases kind <;> decide
  | object fields =>
      cases fields with
      | nil => rw [Text.endsWith_iff_suffix]; decide
      | cons _ _ => exact Text.not_endsWith_append (by decide) (by decide)
  | gap reason =>
      cases reason with
      | described _ => exact Text.not_endsWith_append (by decide) (by decide)
      | function => rw [Text.endsWith_iff_suffix]; decide
      | unrecognized _ =>
          change ¬ "z.unknown()".endsWith _ = true
          rw [Text.endsWith_iff_suffix]
          decide
  | unspecified => rw [Text.endsWith_iff_suffix]; decide
  | _ => exact Text.not_endsWith_append (by decide) (by decide)

/-- The text of a validator ends in `.optional()` exactly if the validator accepts a missing value
by its form. -/
theorem endsWith_optionalSuffix_iff (validator : Validator) :
    validator.code.endsWith optionalSuffix = true ↔ validator.isOptional = true := by
  cases form : validator.isOptional with
  | false => exact iff_of_false (not_endsWith_optionalSuffix form) Bool.false_ne_true
  | true =>
      cases validator with
      | optional inner => exact iff_of_true (Text.endsWith_append _ _) rfl
      | _ => cases form

/-- The form of a validator and the end of its text decide alike whether `.optional()` is added. -/
theorem code_asOptional (validator : Validator) :
    validator.asOptional.code = optionalCode validator.code := by
  rw [optionalCode]
  split
  · rename_i ends
    have form := (endsWith_optionalSuffix_iff validator).mp ends
    cases validator with
    | optional inner => rfl
    | _ => cases form
  · rename_i open_
    have form := mt (endsWith_optionalSuffix_iff validator).mpr open_
    cases validator with
    | optional inner => exact absurd rfl form
    | _ => rfl

theorem not_endsWith_twice {validator : Validator} (once : validator.isTwiceOptional = false) :
    ¬ validator.code.endsWith (optionalSuffix ++ optionalSuffix) = true := by
  intro ends
  have outer : validator.code.endsWith optionalSuffix = true := by
    rw [Text.endsWith_iff_suffix, String.toList_append] at ends
    rw [Text.endsWith_iff_suffix]
    exact (List.suffix_append _ _).trans ends
  have form := (endsWith_optionalSuffix_iff validator).mp outer
  cases validator with
  | optional inner =>
      have twice := (endsWith_optionalSuffix_iff inner).mp (Text.endsWith_append_append_iff.mp ends)
      rw [isTwiceOptional, twice] at once
      cases once
  | _ => cases form

/-- The line of a field ends in `.optional(),` exactly if its validator accepts a missing value by
its form. -/
theorem endsWith_fieldCode_iff (name : String) (validator : Validator) :
    (fieldCode name validator.code).endsWith ".optional()," = true ↔
      validator.isOptional = true := by
  have flat : ∀ c ∈ ".optional(),".toList, c ≠ '\n' ∧ c ≠ ' ' := by simp
  have suffix : ".optional()," = optionalSuffix ++ "," := rfl
  have separated : "  " ++ name ++ ": " ++ validator.code =
      "  " ++ name ++ ":" ++ String.singleton ' ' ++ validator.code := by
    rw [← String.toList_inj]
    simp [String.toList_append]
  -- The name may be any text, so the blank behind the colon has to keep the ending away from it.
  have unmarked : ' ' ∉ optionalSuffix.toList := by decide
  rw [fieldCode, Text.endsWith_hang_iff flat, suffix, Text.endsWith_append_append_iff, separated,
    Text.endsWith_behind_iff unmarked, endsWith_optionalSuffix_iff]

end Validator

end TypeScaffold
