import TypeScaffold.Model.Basic
import TypeScaffold.Proofs.Decimal.Spelling
import TypeScaffold.Proofs.Json.Quoted

/-!
# Literals

The literals of a type, and which of them can be written. A number that is infinite or no number at
all has a name instead of a numeral, and the name means nothing where the literal stands.
-/

namespace TypeScaffold

open Decimal

/-- The text is a word for a truth value, a quoted text or a numeral. -/
def Text.IsLiteral (text : String) : Prop :=
  text ∈ ["true", "false"] ∨ (∃ content, text = Text.doubleQuoted content) ∨ IsNumeral text

def Decimal.Double.IsFinite : Double → Prop
  | .finite _ _ _ _ => True
  | .nan => False
  | .infinity _ => False

namespace Scalar

/-- The value is a truth value, a text or a finite number. -/
def IsFinite : Scalar → Prop
  | .float number => number.IsFinite
  | _ => True

theorem isNumeral_code_of_isFinite {number : Double} (finite : number.IsFinite) :
    IsNumeral (Scalar.float number).code := by
  rw [Scalar.code]
  split
  · exact isNumeral_toString _
  · cases number with
    | finite negative significand power canonical => exact isNumeral_text canonical
    | nan => exact absurd finite id
    | infinity _ => exact absurd finite id

theorem not_isLiteral_of_letter {text : String} (unquoted : text.toList.head? ≠ some '"')
    (named : text ∉ ["true", "false"]) (noNumeral : ¬ IsNumeral text) : ¬ Text.IsLiteral text := by
  rintro (word | ⟨content, rfl⟩ | numeral)
  · exact named word
  · rw [Text.doubleQuoted, String.toList_ofList] at unquoted
    exact unquoted rfl
  · exact noNumeral numeral

/-- What is written for a value is a literal just when the value is finite. -/
theorem isLiteral_code_iff {value : Scalar} : Text.IsLiteral value.code ↔ value.IsFinite := by
  cases value with
  | bool truth =>
      refine iff_of_true (Or.inl ?_) trivial
      cases truth <;> decide
  | int whole => exact iff_of_true (Or.inr (Or.inr (isNumeral_toString whole))) trivial
  | text content => exact iff_of_true (Or.inr (Or.inl ⟨content, rfl⟩)) trivial
  | float number =>
      cases number with
      | nan => exact iff_of_false (not_isLiteral_of_letter (by decide) (by decide) (by decide)) id
      | infinity negative =>
          refine iff_of_false ?_ id
          cases negative
          · exact not_isLiteral_of_letter (by decide) (by decide) (by decide)
          · exact not_isLiteral_of_letter (by decide) (by decide) (by decide)
      | finite negative significand power canonical =>
          exact iff_of_true (Or.inr (Or.inr (isNumeral_code_of_isFinite trivial))) trivial

theorem newline_notMem_of_isNumeral {text : String} (numeral : IsNumeral text) :
    '\n' ∉ text.toList :=
  fun there => absurd (numeral.2 '\n' there) (by decide)

/-- What is written for a value stands on one line. -/
theorem newline_notMem_code (value : Scalar) : '\n' ∉ value.code.toList := by
  cases value with
  | bool truth => cases truth <;> decide
  | int whole => exact newline_notMem_of_isNumeral (isNumeral_toString whole)
  | text content => exact Text.newline_notMem_doubleQuoted content
  | float number =>
      cases number with
      | nan => decide
      | infinity negative => cases negative <;> decide
      | finite negative significand power canonical =>
          exact newline_notMem_of_isNumeral (isNumeral_code_of_isFinite trivial)

end Scalar

namespace TypeNode

mutual

/-- The values of the literals and enumerations in a type, from left to right. A record of which the
key or the value is not known has none. -/
def literals : TypeNode → List Scalar
  | .literal value => [value]
  | .enumeration members _ => members.map (fun member => member.value.scalar)
  | .primitive _ | .reference _ | .function | .unknown _ => []
  | .array none => []
  | .array (some element) => literals element
  | .tuple nodes | .union nodes | .intersection nodes => literalsOfAll nodes
  | .object properties _ => literalsOfProperties properties
  | .record (some key) (some value) => literals key ++ literals value
  | .record _ _ => []
termination_by structural node => node

/-- The literals of types in order. -/
def literalsOfAll : List TypeNode → List Scalar
  | [] => []
  | node :: rest => literals node ++ literalsOfAll rest
termination_by structural nodes => nodes

/-- The literals of properties in order. -/
def literalsOfProperties : List Property → List Scalar
  | [] => []
  | ⟨_, type, _⟩ :: rest => literals type ++ literalsOfProperties rest
termination_by structural properties => properties

end

end TypeNode

end TypeScaffold
