import TypeScaffold.Proofs.Model.Literals
import TypeScaffold.Proofs.Model.TextLiterals

/-!
# What literals denote

A truth value is denoted by its word, a text by the JSON string that is read as it, and a number by a
decimal literal: the literal of a whole number stands for just that number, and that of any other
number for one that rounds to it. The literals that are written denote their values, except that
infinity and what is no number are written as names.
-/

namespace TypeScaffold

open Decimal

namespace Scalar

/-- The text is a literal for the value. A decimal literal for a whole number stands for just that
number, one for another number stands for a value that rounds to it. -/
def IsDenotedBy (value : Scalar) (text : String) : Prop :=
  match value with
  | .bool truth => text = if truth then "true" else "false"
  | .text content => (∃ body, text.toList = '"' :: (body ++ ['"'])) ∧
      Json.readDocument text = .ok (.text content)
  | .int whole => StandsFor text whole
  | .float number => ∃ read, StandsFor text read ∧ number.IsReadFrom read ∧
      ∀ whole : Int, number.value? = some (whole : ℚ) → read = whole

theorem isDenotedBy_code_finite (negative : Bool) {significand : Nat} {power : Int}
    (canonical : Canonical significand power) :
    IsDenotedBy (.float (.finite negative significand power canonical))
      (Scalar.float (.finite negative significand power canonical)).code := by
  cases found : (Double.finite negative significand power canonical).toInt? with
  | some whole =>
      have value := toInt?_eq_some_iff.mp found
      rw [code, found]
      refine ⟨whole, standsFor_toString whole, isNearest_value value, fun other same => ?_⟩
      exact Option.some.inj (value.symm.trans same)
  | none =>
      have notWhole : ∀ whole : Int,
          (Double.finite negative significand power canonical).value? ≠ some (whole : ℚ) := by
        intro whole same
        rw [toInt?_eq_some_iff.mpr same] at found
        cases found
      have nonzero : 0 < significand := by
        refine Nat.pos_of_ne_zero (fun zero => notWhole 0 ?_)
        rw [Double.value?, magnitude, zero]
        cases negative <;> simp [signed]
      rw [code, found]
      exact ⟨_, standsFor_text negative canonical nonzero,
        isNearest_of_inInterval negative nonzero canonical (shortest_inInterval canonical nonzero),
        fun whole same => absurd same (notWhole whole)⟩

/-- What is written for a value is a literal for it just when the value is finite. -/
theorem isDenotedBy_code_iff {value : Scalar} : value.IsDenotedBy value.code ↔ value.IsFinite := by
  cases value with
  | bool truth => exact iff_of_true (by cases truth <;> rfl) trivial
  | int whole => exact iff_of_true (standsFor_toString whole) trivial
  | text content =>
      exact iff_of_true ⟨⟨_, toList_code_text content⟩, readDocument_code_text content⟩ trivial
  | float number =>
      cases number with
      | finite negative significand power canonical =>
          exact iff_of_true (isDenotedBy_code_finite negative canonical) trivial
      | nan => exact iff_of_false (fun ⟨_, _, never, _⟩ => never) id
      | infinity negative =>
          refine iff_of_false (fun ⟨_, stands, _, _⟩ => ?_) id
          have numeral := isNumeral_of_standsFor stands
          cases negative <;> exact absurd numeral (by decide)

end Scalar

end TypeScaffold
