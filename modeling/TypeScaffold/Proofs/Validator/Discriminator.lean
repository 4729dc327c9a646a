import TypeScaffold.Proofs.Model.Choice
import TypeScaffold.Proofs.Validator.Acceptance

/-!
# Objects told apart by a key

A union of objects that have a literal under one key is checked by that key. The key tells the objects
apart just when no two of the literals stand for one value; that a literal is there does not make them
different.
-/

namespace TypeScaffold

namespace TypeNode

/-- The entries have under the key what the literal of the object there stands for. -/
def Matches (key : String) (entries : Keyed Value) (node : TypeNode) : Prop :=
  ∃ literal, node.literalAt? key = some literal ∧ literal.Denotes (Value.under entries key)

/-- The objects have literals under the key that stand for one value. -/
def SharesLiteral (key : String) (first second : TypeNode) : Prop :=
  ∃ literal other, first.literalAt? key = some literal ∧ second.literalAt? key = some other ∧
    literal.SharesValue other

/-- Two objects are met by the same entries just when their literals stand for one value. -/
theorem exists_matches_both_iff {key : String} {first second : TypeNode} :
    (∃ entries, first.Matches key entries ∧ second.Matches key entries) ↔
      first.SharesLiteral key second := by
  constructor
  · rintro ⟨entries, ⟨literal, found, denotes⟩, ⟨other, foundOther, denotesOther⟩⟩
    exact ⟨literal, other, found, foundOther, _, denotes, denotesOther⟩
  · rintro ⟨literal, other, found, foundOther, value, denotes, denotesOther⟩
    have there : Value.under [(key, value)] key = value := by
      rw [Value.under, Keyed.get?, if_pos rfl, Option.getD_some]
    refine ⟨[(key, value)], ⟨literal, found, ?_⟩, ⟨other, foundOther, ?_⟩⟩
    · rwa [there]
    · rwa [there]

end TypeNode

namespace Validator

end Validator

end TypeScaffold
