import TypeScaffold.Proofs.Model.Merging

/-!
# Items of a declared name

Items of a declared name merge exactly if items of the declared type do. If each of some names waits for
another of them, be it declared as that name or as a union with it, then a derivation would have no
beginning: none of them merges, wherever the search enters the circle.
-/

namespace TypeScaffold.TypeNode

variable {arena : Keyed Declaration}

theorem isObjectLike_reference_iff {name : String} {target : Declaration}
    (found : arena.get? name = some target) :
    IsObjectLike arena (.reference name) ↔ target.type.IsObjectLike arena := by
  constructor
  · intro like
    cases like with
    | undeclared missing =>
        rw [missing] at found
        cases found
    | declared foundToo likeTarget =>
        obtain rfl := Option.some.inj (foundToo.symm.trans found)
        exact likeTarget
  · intro likeTarget
    exact .declared found likeTarget

/-- A declared name merges as its type does. -/
theorem merges_reference {name : String} {target : Declaration}
    (found : arena.get? name = some target) :
    (TypeNode.reference name).merges arena = target.type.merges arena := by
  rw [Bool.eq_iff_iff, merges_iff, merges_iff, isObjectLike_reference_iff found]

/-! ## Circles of names -/

/-- The type merges only if the name does: it refers to the name, or it is a union with such a
member. -/
inductive Awaits (name : String) : TypeNode → Prop
  | reference : Awaits name (.reference name)
  | union {members : List TypeNode} {member : TypeNode} (there : member ∈ members)
      (awaits : Awaits name member) : Awaits name (.union members)

/-- Each of the names is declared as a type that awaits one of them. -/
def IsCircular (arena : Keyed Declaration) (names : List String) : Prop :=
  ∀ name ∈ names, ∃ target, arena.get? name = some target ∧
    ∃ other ∈ names, Awaits other target.type

/-- A derivation for a name in a circle would need one for another name in the circle first. -/
theorem IsCircular.not_awaits {names : List String} (circular : IsCircular arena names)
    {node : TypeNode} (like : node.IsObjectLike arena) : ∀ name ∈ names, ¬ Awaits name node := by
  induction like with
  | object | intersection | record =>
      intro name _ awaits
      cases awaits
  | union _ _ inductionHypothesis =>
      intro name member awaits
      cases awaits with
      | union there awaitsMember => exact inductionHypothesis _ there name member awaitsMember
  | @undeclared name missing =>
      intro awaited member awaits
      cases awaits
      obtain ⟨target, found, _⟩ := circular name member
      rw [missing] at found
      cases found
  | @declared name _ found _ inductionHypothesis =>
      intro awaited member awaits
      cases awaits
      obtain ⟨target, foundToo, other, otherMember, awaitsOther⟩ := circular name member
      obtain rfl := Option.some.inj (foundToo.symm.trans found)
      exact inductionHypothesis other otherMember awaitsOther

theorem IsCircular.merges_eq_false {names : List String} (circular : IsCircular arena names)
    {name : String} (member : name ∈ names) :
    (TypeNode.reference name).merges arena = false := by
  rw [Bool.eq_false_iff, Ne, merges_iff]
  intro like
  exact circular.not_awaits like name member .reference

/-- Items of a type merge exactly if the type comes down to objects and the like. Those of a declared
name merge exactly if those of the declared type do, and names that wait for one another in a circle
never do. -/
theorem merges_by_derivation (arena : Keyed Declaration) :
    (∀ node : TypeNode, node.merges arena = true ↔ node.IsObjectLike arena) ∧
      (∀ name target, arena.get? name = some target →
        (TypeNode.reference name).merges arena = target.type.merges arena) ∧
      ∀ names : List String, IsCircular arena names →
        ∀ name ∈ names, (TypeNode.reference name).merges arena = false := by
  refine ⟨fun _ => merges_iff, fun _ _ => merges_reference, ?_⟩
  intro names circular name member
  exact circular.merges_eq_false member

/-- A line of an order is a discount or something declared elsewhere. A step may be a step again, and
the two ends of a link are declared as each other. -/
def lineArena : Keyed Declaration :=
  [("Line", ⟨"Line", .union [.reference "Discount", .reference "Product"],
      ["Discount", "Product"], true⟩),
    ("Discount", ⟨"Discount", .reference "Prices", ["Prices"], false⟩),
    ("Prices", ⟨"Prices", .record (some (.primitive "string")) none, [], false⟩),
    ("Step", ⟨"Step", .union [.object [] none, .reference "Step"], ["Step"], true⟩),
    ("Source", ⟨"Source", .reference "Target", ["Target"], true⟩),
    ("Target", ⟨"Target", .reference "Source", ["Source"], true⟩)]

theorem lines_merge :
    (TypeNode.reference "Line").merges lineArena = true ∧
      (TypeNode.reference "Discount").merges lineArena =
        (TypeNode.reference "Prices").merges lineArena ∧
      (TypeNode.reference "Step").merges lineArena = false ∧
      ∀ name ∈ ["Source", "Target"], (TypeNode.reference name).merges lineArena = false := by
  obtain ⟨derived, declared, circles⟩ := merges_by_derivation lineArena
  have line : (TypeNode.reference "Line").IsObjectLike lineArena := by
    have discount : (TypeNode.reference "Discount").IsObjectLike lineArena :=
      .declared rfl (.declared rfl .record)
    have product : (TypeNode.reference "Product").IsObjectLike lineArena := .undeclared rfl
    refine .declared rfl (.union (List.cons_ne_nil _ _) ?_)
    exact List.forall_mem_cons.mpr ⟨discount, List.forall_mem_singleton.mpr product⟩
  have step : IsCircular lineArena ["Step"] := by
    refine List.forall_mem_singleton.mpr ⟨_, rfl, "Step", List.mem_cons_self, ?_⟩
    exact .union (List.mem_cons_of_mem _ List.mem_cons_self) .reference
  have link : IsCircular lineArena ["Source", "Target"] := by
    refine List.forall_mem_cons.mpr ⟨?_, List.forall_mem_singleton.mpr ?_⟩
    · exact ⟨_, rfl, "Target", by decide, .reference⟩
    · exact ⟨_, rfl, "Source", by decide, .reference⟩
  exact ⟨(derived _).mpr line, declared "Discount" _ rfl,
    circles ["Step"] step "Step" List.mem_cons_self, circles _ link⟩

end TypeScaffold.TypeNode
