import TypeScaffold.Proofs.Initial.Literals
import TypeScaffold.Proofs.Model.Denotation
import TypeScaffold.Proofs.Model.RoundTrip
import TypeScaffold.Proofs.TypeExpr.Literals
import TypeScaffold.Proofs.Validator.Literals

/-!
# Literals in what is generated

Validators, initial values and type expressions write no literals but those of the types that they are
made for, and for initial values of the types that are followed. As long as no number among them is
infinite or no number at all, each is denoted by what is written for it.
-/

namespace TypeScaffold

open Decimal

namespace Generation

/-- What is written for a value is a literal for it just when the value is finite. So where all
literals of a type and of the declared types are finite, every literal in a validator, an initial value
or a type expression denotes its value. -/
theorem literals_denote_values (arena : Keyed Declaration) (node : TypeNode) :
    (∀ value : Scalar, value.IsDenotedBy value.code ↔ value.IsFinite) ∧
    ((∀ value ∈ node.literals, value.IsFinite) →
      (∀ name target, arena.get? name = some target →
        ∀ value ∈ target.type.literals, value.IsFinite) →
      ∀ value ∈ (Validator.ofNode node).literals ++ (Initial.ofType arena node).literals ++
        (TypeExpr.ofNode arena node).literals, value.IsDenotedBy value.code) := by
  refine ⟨fun value => Scalar.isDenotedBy_code_iff, fun finite declared value written => ?_⟩
  refine Scalar.isDenotedBy_code_iff.mpr ?_
  rw [List.mem_append, List.mem_append, Validator.literals_ofNode, TypeExpr.literals_ofNode] at written
  rcases written with (checked | started) | typed
  · exact finite value checked
  · rcases Initial.mem_literals_of_ofType started with here | ⟨name, target, found, there⟩
    · exact finite value here
    · exact declared name target found value there
  · exact finite value typed

/-- The number nearest to a tenth, which is a little greater. -/
def tenth : Double :=
  .finite false 7205759403792794 (-56) (by decide)

/-- The literal `0.1` denotes the number nearest to a tenth. -/
theorem tenth_denoted :
    (∀ value ∈ (TypeNode.literal (.float tenth)).literals, value.IsFinite) ∧
      (Scalar.float tenth).IsDenotedBy "0.1" := by
  have finite : ∀ value ∈ (TypeNode.literal (.float tenth)).literals, value.IsFinite :=
    fun value listed => List.mem_singleton.mp listed ▸ trivial
  have denoted := (literals_denote_values [] (.literal (.float tenth))).2 finite
    (fun _ _ found => nomatch found) (.float tenth) List.mem_cons_self
  have written : (Scalar.float tenth).code = "0.1" := by decide +kernel
  exact ⟨finite, written ▸ denoted⟩

/-- A declaration whose type is the literal of infinity. -/
def limitSource : Json :=
  .object [("name", .text "Limit"),
    ("type", .object [("kind", .text "literal"), ("value", .float (.infinity false))])]

/-- The literal of infinity is loaded, but what is written for its value is a name. -/
theorem infinite_value_not_denoted :
    Model.load Model.valueSource (.object [("declarations", .list [limitSource])]) =
      .ok ⟨[⟨"Limit", .literal (.float (.infinity false)), [], true⟩], []⟩ ∧
    (Scalar.float (.infinity false)).code = "inf" ∧
    ¬ (Scalar.float (.infinity false)).IsDenotedBy "inf" := by
  refine ⟨?_, rfl, fun denoted => Scalar.isDenotedBy_code_iff.mp denoted⟩
  have independent : NameSet.ofList [] = [] :=
    NameSet.ofList_eq_of_pairwise .nil .nil (fun _ => Iff.rfl)
  have decoded : Declaration.decode limitSource =
      .ok ⟨"Limit", .literal (.float (.infinity false)), [], true⟩ :=
    Declaration.decode_eq_ok_iff.mpr ⟨_, [], rfl, rfl, rfl, rfl, rfl, rfl, independent⟩
  apply Model.load_eq_ok_iff.mpr
  apply Model.decode_eq_ok_iff.mpr
  exact ⟨_, rfl, Validation.withDefault_writtenList rfl (.cons decoded .nil), rfl, rfl⟩

end Generation

end TypeScaffold
