import TypeScaffold.Proofs.Initial.Inlining
import TypeScaffold.Proofs.Initial.Parts

/-!
# Names that stand for their types

The names that may still be followed get fewer along a path, so a declared name may have one value
inside a type and another beside it. Only a circle makes this difference: striking a name has no
effect where no path of inlined declarations leads to it. Where the declarations without a store
refer to one another in no circle, such a name stands for its type everywhere.
-/

namespace TypeScaffold

open Relation

/-- The name stands for a declaration without a store, whose type refers to the other name. -/
def Embeds (arena : Keyed Declaration) (name other : String) : Prop :=
  ∃ declaration, arena.get? name = some declaration ∧ declaration.hasStore = false ∧
    other ∈ declaration.type.references

theorem Inlines.embeds {arena : Keyed Declaration} {name consulted : String}
    (inlines : Inlines arena name consulted) : Embeds arena name consulted := by
  obtain ⟨declaration, found, storeless, member⟩ := inlines
  exact ⟨declaration, found, storeless, declaration.type.consulted_subset_references member⟩

namespace Initial

/-! ## Values that rest on the same names -/

mutual

theorem replace_congr {first second : String → Initial} :
    ∀ value : Initial, (∀ name ∈ value.constants, first name = second name) →
      value.replace first = value.replace second
  | .constant name, agree => agree name (List.mem_singleton_self name)
  | .list items, agree => by
      rw [replace, replace, replaceAll_congr items agree]
  | .object entries, agree => by
      rw [replace, replace, replaceEntries_congr entries agree]
  | .absent, _ => rfl
  | .builtin _, _ => rfl
  | .literal _, _ => rfl

theorem replaceAll_congr {first second : String → Initial} :
    ∀ values : List Initial, (∀ name ∈ constantsOfAll values, first name = second name) →
      replaceAll first values = replaceAll second values
  | [], _ => rfl
  | value :: rest, agree => by
      rw [constantsOfAll, List.forall_mem_append] at agree
      rw [replaceAll, replaceAll, replace_congr value agree.1, replaceAll_congr rest agree.2]

theorem replaceEntries_congr {first second : String → Initial} :
    ∀ entries : List (String × Initial),
      (∀ name ∈ constantsOfEntries entries, first name = second name) →
        replaceEntries first entries = replaceEntries second entries
  | [], _ => rfl
  | (_, value) :: rest, agree => by
      rw [constantsOfEntries, List.forall_mem_append] at agree
      rw [replaceEntries, replaceEntries, replace_congr value agree.1,
        replaceEntries_congr rest agree.2]

end

/-- The value of a type rests on the names that the type consults only. -/
theorem ofNode_congr_consulted {first second : String → Initial} {node : TypeNode}
    (agree : ∀ name ∈ node.consulted, first name = second name) :
    ofNode first node = ofNode second node := by
  rw [ofNode_eq_replace first, ofNode_eq_replace second]
  exact replace_congr _ agree

/-! ## Names without circles -/

section Names

variable {arena : Keyed Declaration}

/-- Whether a name may still be followed does not matter to a name that does not lead to it. -/
theorem ofReference_erase {unvisited : List String} {name other : String}
    (apart : ¬ ReflTransGen (Inlines arena) name other) :
    ofReference arena (unvisited.erase other) name = ofReference arena unvisited name := by
  have different : name ≠ other := fun same => apart (same ▸ ReflTransGen.refl)
  have stays : name ∈ unvisited.erase other ↔ name ∈ unvisited := List.mem_erase_of_ne different
  by_cases followed : ∃ target, arena.get? name = some target ∧ target.hasStore = false ∧
      name ∈ unvisited
  · obtain ⟨target, found, storeless, fresh⟩ := followed
    rw [ofReference_followed found storeless (stays.mpr fresh),
      ofReference_followed found storeless fresh, List.erase_comm]
    apply ofNode_congr_consulted
    intro consulted member
    have step : Inlines arena name consulted := ⟨target, found, storeless, member⟩
    exact ofReference_erase (fun path => apart (ReflTransGen.head step path))
  · have settled : ∀ target, arena.get? name = some target → target.hasStore = false →
        name ∉ unvisited :=
      fun target found storeless there => followed ⟨target, found, storeless, there⟩
    rw [ofReference_settled settled, ofReference_settled]
    intro target found storeless there
    exact settled target found storeless (stays.mp there)
termination_by unvisited.length
decreasing_by
  have shorter := List.length_erase_of_mem fresh
  have positive := List.length_pos_of_mem fresh
  omega

/-- A name without a store that does not lead back to itself has the value of its type. -/
theorem ofType_reference {name : String} {target : Declaration}
    (found : arena.get? name = some target) (storeless : target.hasStore = false)
    (returnless : ¬ TransGen (Inlines arena) name name) :
    ofType arena (.reference name) = ofType arena target.type := by
  have fresh : name ∈ arena.keys := List.mem_map_of_mem (Keyed.mem_of_get? found)
  change ofReference arena arena.keys name = ofNode (ofReference arena arena.keys) target.type
  rw [ofReference_followed found storeless fresh]
  apply ofNode_congr_consulted
  intro consulted member
  have step : Inlines arena name consulted := ⟨target, found, storeless, member⟩
  exact ofReference_erase (fun path => returnless (TransGen.head' step path))

end Names

end Initial

/-- From the name a chain of declarations without a store, each of them declared as the next name,
leads to one that is declared as the type. -/
inductive IsAliasOf (arena : Keyed Declaration) : String → TypeNode → Prop
  | declared {name : String} {target : Declaration} (found : arena.get? name = some target)
      (storeless : target.hasStore = false) : IsAliasOf arena name target.type
  | renamed {name next : String} {target : Declaration} {node : TypeNode}
      (found : arena.get? name = some target) (storeless : target.hasStore = false)
      (renames : target.type = .reference next) (later : IsAliasOf arena next node) :
      IsAliasOf arena name node

namespace Initial

/-- Where declarations without a store refer to one another in no circle, each has the value of its
type, and so has every alias of it. The parts of a tuple and the properties of an object have the
values that their types have by themselves, so a name has the same value wherever it stands. -/
theorem names_stand_for_types (arena : Keyed Declaration)
    (acyclic : ∀ name, ¬ TransGen (Embeds arena) name name) :
    (∀ name target, arena.get? name = some target → target.hasStore = false →
        ofField arena false (some (.reference name)) = ofField arena false (some target.type)) ∧
      (∀ name node, IsAliasOf arena name node →
        ofField arena false (some (.reference name)) = ofField arena false (some node)) ∧
      (∀ elements : List TypeNode, ofField arena false (some (.tuple elements)) =
        .list (elements.map (fun element => ofField arena false (some element)))) ∧
      ∀ (properties : List Property) (label : Option String),
        ofField arena false (some (.object properties label)) =
          .object (properties.map (fun property =>
            (property.name, ofField arena property.isOptional (some property.type)))) := by
  have direct : ∀ name target, arena.get? name = some target → target.hasStore = false →
      ofType arena (.reference name) = ofType arena target.type := by
    intro name target found storeless
    apply ofType_reference found storeless
    exact fun circle => acyclic name (TransGen.mono (fun _ _ => Inlines.embeds) _ _ circle)
  refine ⟨direct, ?_, ?_, ?_⟩
  · intro name node chain
    induction chain with
    | declared found storeless => exact direct _ _ found storeless
    | renamed found storeless renames _ inductionHypothesis =>
        have step := direct _ _ found storeless
        rw [renames] at step
        exact step.trans inductionHypothesis
  · intro elements
    change Initial.list (ofNodes _ elements) = _
    rw [ofNodes_eq_map]
    rfl
  · intro properties label
    change Initial.object (ofProperties _ properties) = _
    rw [ofProperties_eq_map]
    rfl

/-- A rank that falls along every reference of a declaration without a store excludes circles. -/
theorem acyclic_of_rank {arena : Keyed Declaration} (rank : String → Nat)
    (falls : ∀ entry ∈ arena, entry.2.hasStore = false →
      ∀ other ∈ entry.2.type.references, rank other < rank entry.1) (name : String) :
    ¬ TransGen (Embeds arena) name name := by
  have descends : ∀ {first last : String}, TransGen (Embeds arena) first last →
      rank last < rank first := by
    intro first last path
    have step : ∀ {name other : String}, Embeds arena name other → rank other < rank name := by
      rintro name other ⟨declaration, found, storeless, member⟩
      exact falls (name, declaration) (Keyed.mem_of_get? found) storeless other member
    induction path with
    | single last => exact step last
    | tail _ last inductionHypothesis => exact (step last).trans inductionHypothesis
  exact fun circle => Nat.lt_irrefl _ (descends circle)

/-- The segments of a drawing end at points, whose name has two more names. The drawing has a store
and may stand inside another. -/
def drawingArena : Keyed Declaration :=
  [("Point", ⟨"Point", .object [⟨"x", .primitive "number", false⟩,
      ⟨"y", .primitive "number", false⟩] (some "Point"), [], false⟩),
    ("Corner", ⟨"Corner", .reference "Place", ["Place"], true⟩),
    ("Place", ⟨"Place", .reference "Point", ["Point"], true⟩),
    ("Segment", ⟨"Segment", .tuple [.reference "Point", .reference "Corner"],
      ["Point", "Corner"], false⟩),
    ("Drawing", ⟨"Drawing", .object [⟨"outer", .reference "Drawing", false⟩,
      ⟨"first", .reference "Segment", false⟩] (some "Drawing"), ["Drawing", "Segment"], true⟩)]

/-- What a name of the drawing refers to stands lower. -/
def drawingRank (name : String) : Nat :=
  ["Point", "Place", "Corner", "Segment"].idxOf name

theorem points_stand_for_their_type :
    (∀ name, ¬ TransGen (Embeds drawingArena) name name) ∧
      ofField drawingArena false (some (.reference "Corner")) =
        .object [("x", .builtin "0"), ("y", .builtin "0")] ∧
      (ofField drawingArena false (some (.reference "Segment"))).code =
        r"[{ x: 0, y: 0 }, { x: 0, y: 0 }]" := by
  have acyclic : ∀ name, ¬ TransGen (Embeds drawingArena) name name :=
    acyclic_of_rank drawingRank (by decide +kernel)
  obtain ⟨direct, chains, tuples, _⟩ := names_stand_for_types drawingArena acyclic
  have chain : IsAliasOf drawingArena "Corner" _ :=
    .renamed rfl rfl rfl (.renamed rfl rfl rfl (.declared rfl rfl))
  have point := direct "Point" _ rfl rfl
  have corner := chains "Corner" _ chain
  refine ⟨acyclic, corner.trans rfl, ?_⟩
  rw [direct "Segment" _ rfl rfl, tuples, List.map_cons, List.map_cons, List.map_nil, point, corner]
  decide +kernel

end Initial

end TypeScaffold
