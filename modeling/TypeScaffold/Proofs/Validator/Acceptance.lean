import TypeScaffold.Proofs.Model.Values
import TypeScaffold.Proofs.Validator.Optional

/-!
# What validators accept

Each combinator accepts what its name says. Of fields with one name the last takes the place of the
others, and what an object does not have is read as `undefined`. Where objects are told apart by a key,
the first member whose literal there is met decides alone.
-/

namespace TypeScaffold

def Builtin.Accepts : Builtin → Value → Prop
  | .string, value => ∃ content, value = .text content
  | .number, value => ∃ number, value = .number number
  | .boolean, value => ∃ truth, value = .bool truth
  | .date, value => ∃ milliseconds, value = .date milliseconds
  | .bigint, value => ∃ whole, value = .bigint whole
  | .any, _ => True
  | .unknown, _ => True
  | .never, _ => False
  | .void, value => value = .undefined
  | .null, value => value = .null
  | .undefined, value => value = .undefined

namespace Validator

/-- The literal that an object asks for under the key. -/
def literalAt? (key : String) : Validator → Option Scalar
  | .object fields =>
      match Keyed.get? key fields.reverse with
      | some (.literal value) => some value
      | _ => none
  | _ => none

/-- The entries have under the key what the validator's literal there stands for. -/
def Matches (key : String) (entries : Keyed Value) (validator : Validator) : Prop :=
  ∃ literal, validator.literalAt? key = some literal ∧ literal.Denotes (Value.under entries key)

mutual

/-- The validator accepts the value, where `meaning` tells what the validators of declared names
accept. -/
def Accepts (meaning : String → Value → Prop) : Validator → Value → Prop
  | .builtin kind, value => kind.Accepts value
  | .literal scalar, value => scalar.Denotes value
  | .choice options, value => ∃ option ∈ options, value = .text option
  | .array element, value => ∃ items, value = .list items ∧ ∀ item ∈ items, Accepts meaning element item
  | .tuple elements, value => ∃ items, value = .list items ∧ AcceptsEach meaning elements items
  | .union members, value => AcceptsSome meaning members value
  | .discriminated key members, value =>
      ∃ entries, value = .object entries ∧ AcceptsMatching meaning key members entries
  | .both left right, value => Accepts meaning left value ∧ Accepts meaning right value
  | .object fields, value => ∃ entries, value = .object entries ∧ AcceptsFields meaning fields entries
  | .record key content, value =>
      ∃ entries, value = .object entries ∧ ∀ name item, Keyed.get? name entries = some item →
        Accepts meaning key (.text name) ∧ Accepts meaning content item
  | .optional inner, value => value = .undefined ∨ Accepts meaning inner value
  | .nullable inner, value => value = .null ∨ Accepts meaning inner value
  | .reference name, value => meaning name value
  | .gap _, _ => True
  | .unspecified, _ => True
termination_by structural validator => validator

/-- The validators accept the values in order. -/
def AcceptsEach (meaning : String → Value → Prop) : List Validator → List Value → Prop
  | [], values => values = []
  | validator :: rest, values =>
      ∃ value others, values = value :: others ∧ Accepts meaning validator value ∧
        AcceptsEach meaning rest others
termination_by structural validators => validators

/-- One of the validators accepts the value. -/
def AcceptsSome (meaning : String → Value → Prop) : List Validator → Value → Prop
  | [], _ => False
  | validator :: rest, value => Accepts meaning validator value ∨ AcceptsSome meaning rest value
termination_by structural validators => validators

/-- The first validator whose literal under the key is met accepts the object. -/
def AcceptsMatching (meaning : String → Value → Prop) (key : String) :
    List Validator → Keyed Value → Prop
  | [], _ => False
  | validator :: rest, entries =>
      validator.Matches key entries ∧ Accepts meaning validator (.object entries) ∨
        ¬ validator.Matches key entries ∧ AcceptsMatching meaning key rest entries
termination_by structural validators => validators

/-- Each field that no later one replaces accepts what the entries have under its name. -/
def AcceptsFields (meaning : String → Value → Prop) :
    List (String × Validator) → Keyed Value → Prop
  | [], _ => True
  | (name, validator) :: rest, entries =>
      (name ∈ rest.map Prod.fst ∨ Accepts meaning validator (Value.under entries name)) ∧
        AcceptsFields meaning rest entries
termination_by structural fields => fields

end

section Members

variable {meaning : String → Value → Prop} {value : Value} {entries : Keyed Value}

theorem acceptsSome_iff {validators : List Validator} :
    AcceptsSome meaning validators value ↔
      ∃ validator ∈ validators, validator.Accepts meaning value := by
  induction validators with
  | nil => simp [AcceptsSome]
  | cons validator rest inductionHypothesis =>
      rw [AcceptsSome, inductionHypothesis, List.exists_mem_cons_iff]

/-- Fields with distinct names all have their say. -/
theorem acceptsFields_iff {fields : List (String × Validator)}
    (distinct : (fields.map Prod.fst).Nodup) :
    AcceptsFields meaning fields entries ↔
      ∀ field ∈ fields, field.2.Accepts meaning (Value.under entries field.1) := by
  induction fields with
  | nil => simp [AcceptsFields]
  | cons field rest inductionHypothesis =>
      obtain ⟨fresh, distinctRest⟩ := List.nodup_cons.mp distinct
      rw [AcceptsFields, inductionHypothesis distinctRest, List.forall_mem_cons,
        or_iff_right fresh]

/-- Where every member that accepts is met and no two are met by the same entries, the key only tells
where to look. -/
theorem acceptsMatching_iff {key : String} {validators : List Validator}
    (met : ∀ validator ∈ validators, validator.Accepts meaning (.object entries) →
      validator.Matches key entries)
    (apart : validators.Pairwise
      (fun first second => ¬ (first.Matches key entries ∧ second.Matches key entries))) :
    AcceptsMatching meaning key validators entries ↔
      ∃ validator ∈ validators, validator.Accepts meaning (.object entries) := by
  induction validators with
  | nil => simp [AcceptsMatching]
  | cons validator rest inductionHypothesis =>
      obtain ⟨metFirst, metRest⟩ := List.forall_mem_cons.mp met
      obtain ⟨apartFirst, apartRest⟩ := List.pairwise_cons.mp apart
      rw [AcceptsMatching, inductionHypothesis metRest apartRest, List.exists_mem_cons_iff]
      constructor
      · rintro (⟨_, accepts⟩ | ⟨_, later⟩)
        · exact Or.inl accepts
        · exact Or.inr later
      · rintro (accepts | ⟨other, member, accepts⟩)
        · exact Or.inl ⟨metFirst accepts, accepts⟩
        · have matchesOther := metRest other member accepts
          exact Or.inr ⟨fun first => apartFirst other member ⟨first, matchesOther⟩,
            other, member, accepts⟩

/-! ## Combinations -/

theorem accepts_asOptional {validator : Validator} :
    validator.asOptional.Accepts meaning value ↔
      value = .undefined ∨ validator.Accepts meaning value := by
  cases validator with
  | optional inner => rw [asOptional, Accepts, or_self_left]
  | _ => rfl

theorem accepts_foldl_both {validators : List Validator} {left : Validator} :
    (validators.foldl .both left).Accepts meaning value ↔
      left.Accepts meaning value ∧ ∀ validator ∈ validators, validator.Accepts meaning value := by
  induction validators generalizing left with
  | nil => simp
  | cons validator rest inductionHypothesis =>
      rw [List.foldl_cons, inductionHypothesis, Accepts, List.forall_mem_cons, and_assoc]

/-- What is put together of validators asks for all of them, if there are any. -/
theorem accepts_all {validators : List Validator} (filled : validators ≠ []) :
    (all validators).Accepts meaning value ↔
      ∀ validator ∈ validators, validator.Accepts meaning value := by
  cases validators with
  | nil => exact absurd rfl filled
  | cons validator rest => rw [all, accepts_foldl_both, List.forall_mem_cons]

theorem accepts_ofPrimitive {name : String} :
    (ofPrimitive name).Accepts meaning value ↔ value.IsPrimitive name := by
  rw [ofPrimitive]
  cases found : Builtin.ofPrimitive? name with
  | none =>
      unfold Builtin.ofPrimitive? at found
      split at found
      case h_13 => exact iff_of_true trivial (by unfold Value.IsPrimitive; split <;> trivial)
      all_goals cases found
  | some kind =>
      unfold Builtin.ofPrimitive? at found
      split at found
      all_goals cases found
      all_goals rfl

end Members

end Validator

end TypeScaffold
