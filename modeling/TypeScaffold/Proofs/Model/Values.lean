import Mathlib.Data.List.Forall2
import TypeScaffold.Keyed
import TypeScaffold.Model.Choice

/-!
# Values of types

The values that a program can hold and which of them belong to a type. Numbers that differ in the sign
of zero only are the same value to a literal, and what an object does not have is read as `undefined`.
What a reference stands for is given from outside, so that declarations may refer to one another in
circles.
-/

namespace TypeScaffold

open Decimal

/-- A value of a running program. -/
inductive Value where
  | undefined
  | null
  | bool (value : Bool)
  | number (value : Double)
  | bigint (value : Int)
  | text (value : String)
  | date (milliseconds : Int)
  | list (items : List Value)
  | object (entries : List (String × Value))
  /-- A function, a symbol or an instance of some class. -/
  | other (identity : Nat)

instance : Inhabited Value :=
  ⟨.undefined⟩

/-- What is read from the entries of an object under a key. -/
def Value.under (entries : Keyed Value) (key : String) : Value :=
  (entries.get? key).getD .undefined

/-! ## Literals -/

/-- The number of the format nearest to a whole number. -/
def Decimal.Double.ofInt (value : Int) : Double :=
  .ofDecimal (value < 0) value.natAbs 0

/-- The number without the sign of zero. -/
def Decimal.Double.plain : Double → Double
  | .finite _ 0 _ _ => .zero false
  | value => value

/-- The literal stands for the value. -/
def Scalar.Denotes : Scalar → Value → Prop
  | .bool truth, .bool value => truth = value
  | .int whole, .number value => (Double.ofInt whole).plain = value.plain
  | .float number, .number value => number.plain = value.plain
  | .text content, .text value => content = value
  | _, _ => False

theorem Scalar.denotes_text_iff {content : String} {value : Value} :
    (Scalar.text content).Denotes value ↔ value = .text content := by
  cases value with
  | text other => rw [Scalar.Denotes, Value.text.injEq, eq_comm]
  | _ => exact iff_of_false id (fun equal => nomatch equal)

/-- Both literals stand for one value. -/
def Scalar.SharesValue (first second : Scalar) : Prop :=
  ∃ value, first.Denotes value ∧ second.Denotes value

/-! ## Types -/

/-- The value is one of the built-in type of the name. Every value is one of a type that is not
known. -/
def Value.IsPrimitive (name : String) (value : Value) : Prop :=
  match name with
  | "string" => ∃ content, value = .text content
  | "number" => ∃ number, value = .number number
  | "boolean" => ∃ truth, value = .bool truth
  | "bigint" => ∃ whole, value = .bigint whole
  | "Date" | "date" => ∃ milliseconds, value = .date milliseconds
  | "null" => value = .null
  | "undefined" | "void" => value = .undefined
  | "never" => False
  | _ => True

namespace TypeNode

mutual

/-- The value belongs to the type, where `meaning` tells which values belong to a declared name. -/
def Holds (meaning : String → Value → Prop) : TypeNode → Value → Prop
  | .primitive name, value => value.IsPrimitive name
  | .literal scalar, value => scalar.Denotes value
  | .array none, value => ∃ items, value = .list items
  | .array (some element), value =>
      ∃ items, value = .list items ∧ ∀ item ∈ items, Holds meaning element item
  | .tuple elements, value => ∃ items, value = .list items ∧ HoldsEach meaning elements items
  | .union members, value => HoldsSome meaning members value
  | .intersection members, value => HoldsAll meaning members value
  | .object properties _, value =>
      ∃ entries, value = .object entries ∧ HoldsProperties meaning properties entries
  | .reference name, value => meaning name value
  | .enumeration members _, value => ∃ member ∈ members, member.value.scalar.Denotes value
  | .record (some key) (some content), value =>
      ∃ entries, value = .object entries ∧ ∀ name item, Keyed.get? name entries = some item →
        Holds meaning key (.text name) ∧ Holds meaning content item
  | .record _ _, value => ∃ entries, value = .object entries
  | .function, _ => True
  | .unknown _, _ => True
termination_by structural node => node

/-- The values belong to the types in order. -/
def HoldsEach (meaning : String → Value → Prop) : List TypeNode → List Value → Prop
  | [], values => values = []
  | node :: rest, values =>
      ∃ value others, values = value :: others ∧ Holds meaning node value ∧
        HoldsEach meaning rest others
termination_by structural nodes => nodes

/-- The value belongs to one of the types. -/
def HoldsSome (meaning : String → Value → Prop) : List TypeNode → Value → Prop
  | [], _ => False
  | node :: rest, value => Holds meaning node value ∨ HoldsSome meaning rest value
termination_by structural nodes => nodes

/-- The value belongs to all of the types. -/
def HoldsAll (meaning : String → Value → Prop) : List TypeNode → Value → Prop
  | [], _ => True
  | node :: rest, value => Holds meaning node value ∧ HoldsAll meaning rest value
termination_by structural nodes => nodes

/-- What the entries have under the name of each property belongs to its type, or the property is
optional and there is nothing. -/
def HoldsProperties (meaning : String → Value → Prop) : List Property → Keyed Value → Prop
  | [], _ => True
  | ⟨name, type, optional⟩ :: rest, entries =>
      (optional = true ∧ Value.under entries name = .undefined ∨
        Holds meaning type (Value.under entries name)) ∧ HoldsProperties meaning rest entries
termination_by structural properties => properties

end

section Members

variable {meaning : String → Value → Prop} {value : Value}

theorem holdsSome_iff {nodes : List TypeNode} :
    HoldsSome meaning nodes value ↔ ∃ node ∈ nodes, node.Holds meaning value := by
  induction nodes with
  | nil => simp [HoldsSome]
  | cons node rest inductionHypothesis => rw [HoldsSome, inductionHypothesis, List.exists_mem_cons_iff]

theorem holdsAll_iff {nodes : List TypeNode} :
    HoldsAll meaning nodes value ↔ ∀ node ∈ nodes, node.Holds meaning value := by
  induction nodes with
  | nil => simp [HoldsAll]
  | cons node rest inductionHypothesis => rw [HoldsAll, inductionHypothesis, List.forall_mem_cons]

theorem holdsProperties_iff {properties : List Property} {entries : Keyed Value} :
    HoldsProperties meaning properties entries ↔ ∀ property ∈ properties,
      property.optional = true ∧ Value.under entries property.name = .undefined ∨
        property.type.Holds meaning (Value.under entries property.name) := by
  induction properties with
  | nil => simp [HoldsProperties]
  | cons property rest inductionHypothesis =>
      rw [HoldsProperties, inductionHypothesis, List.forall_mem_cons]

end Members

end TypeNode

end TypeScaffold
