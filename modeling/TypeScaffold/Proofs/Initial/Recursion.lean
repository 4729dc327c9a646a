import Mathlib.Data.Prod.Lex
import Mathlib.Data.List.Chain
import TypeScaffold.Model.Merging
import TypeScaffold.Proofs.Initial.Inlining
import TypeScaffold.Proofs.Model.Choice
import TypeScaffold.Proofs.Model.Size

/-!
# Following names comes to an end

The initial value of a type, and whether its items merge, are computed by recursion over its parts
and, by name, over the types of declarations. A call is given the names that it may still follow and
a type. A call for a part keeps the names and takes a smaller type; a call for the type of a name
takes a type of any size and strikes the name. Whatever the declarations refer to, no chain of calls
goes on forever, and the answer is found within a depth that can be told beforehand.
-/

namespace TypeScaffold

/-- What a recursive call is given: the names that may still be followed, and a type. -/
structure Call where
  unvisited : List String
  node : TypeNode

namespace Call

/-- How many names may still be followed, and how large the type is. -/
def measure (call : Call) : Nat × Nat :=
  (call.unvisited.length, call.node.size)

/-- The measure is greater, by the names first and by the size of the type then. -/
def Exceeds (caller callee : Call) : Prop :=
  Prod.Lex (· < ·) (· < ·) callee.measure caller.measure

instance : Trans Exceeds Exceeds Exceeds :=
  ⟨fun earlier later => Trans.trans (r := Prod.Lex (· < ·) (· < ·)) later earlier⟩

/-- One step of following: to a smaller type with the same names, or from a name to its type with
the name struck. -/
inductive Narrows (arena : Keyed Declaration) : Call → Call → Prop
  | part {unvisited : List String} {node part : TypeNode} (smaller : part.size < node.size) :
      Narrows arena ⟨unvisited, node⟩ ⟨unvisited, part⟩
  | declared {unvisited : List String} {name : String} {target : Declaration}
      (found : arena.get? name = some target) (fresh : name ∈ unvisited) :
      Narrows arena ⟨unvisited, .reference name⟩ ⟨unvisited.erase name, target.type⟩

theorem Narrows.exceeds {arena : Keyed Declaration} {caller callee : Call}
    (narrows : Narrows arena caller callee) : caller.Exceeds callee := by
  cases narrows with
  | part smaller => exact .right _ smaller
  | @declared unvisited name _ _ fresh =>
      have shorter := List.length_erase_of_mem fresh
      have positive := List.length_pos_of_mem fresh
      have fewer : (unvisited.erase name).length < unvisited.length := by omega
      exact .left _ _ fewer

/-- A bound for the length of the chains that start with the call: every name that it may follow
gives room for all declared types. -/
def depth (arena : Keyed Declaration) (call : Call) : Nat :=
  call.unvisited.length * (TypeNode.sizeOfAll (arena.map (fun entry => entry.2.type)) + 1) +
    call.node.size

theorem Narrows.depth_lt {arena : Keyed Declaration} {caller callee : Call}
    (narrows : Narrows arena caller callee) : callee.depth arena < caller.depth arena := by
  cases narrows with
  | part smaller => exact Nat.add_lt_add_left smaller _
  | @declared unvisited name target found fresh =>
      have bound : target.type.size ≤ TypeNode.sizeOfAll (arena.map (fun entry => entry.2.type)) :=
        TypeNode.size_le_sizeOfAll
          (List.mem_map.mpr ⟨(name, target), Keyed.mem_of_get? found, rfl⟩)
      have shorter : unvisited.length = (unvisited.erase name).length + 1 := by
        rw [List.length_erase_of_mem fresh, Nat.sub_add_cancel (List.length_pos_of_mem fresh)]
      simp only [depth, shorter, Nat.succ_mul]
      omega

end Call

/-! ## Recursions that end -/

/-- A recursion is given by its body, which computes the answer to a call from those to others. It
ends with the answers that are given: along any chain of calls the measure falls, the body asks for
nothing but the listed calls, the answers solve its equation, and unfolding it more often than the
depth of a call leaves nothing unknown. -/
structure RecursionEnds (arena : Keyed Declaration) {α : Type} (Calls : Call → Call → Prop)
    (step : (Call → α) → Call → α) (answer : Call → α) : Prop where
  falls : ∀ chain : List Call, chain.IsChain Calls → chain.Pairwise Call.Exceeds
  asks : ∀ (first second : Call → α) (caller : Call),
    (∀ callee, Calls caller callee → first callee = second callee) →
      step first caller = step second caller
  solves : step answer = answer
  ends : ∀ (call : Call) (unfoldings : Nat), call.depth arena < unfoldings →
    ∀ unknown : Call → α, step^[unfoldings] unknown call = answer call

theorem RecursionEnds.of_narrows {arena : Keyed Declaration} {α : Type}
    {Calls : Call → Call → Prop} {step : (Call → α) → Call → α} {answer : Call → α}
    (narrows : ∀ caller callee, Calls caller callee → Call.Narrows arena caller callee)
    (asks : ∀ (first second : Call → α) (caller : Call),
      (∀ callee, Calls caller callee → first callee = second callee) →
        step first caller = step second caller)
    (solves : step answer = answer) : RecursionEnds arena Calls step answer where
  falls := by
    intro chain isChain
    exact (isChain.imp (fun caller callee calls => (narrows caller callee calls).exceeds)).pairwise
  asks := asks
  solves := solves
  ends := by
    intro call unfoldings deep unknown
    induction unfoldings generalizing call with
    | zero => exact absurd deep (Nat.not_lt_zero _)
    | succ unfoldings inductionHypothesis =>
        rw [Function.iterate_succ_apply']
        calc step (step^[unfoldings] unknown) call
            = step answer call := by
              apply asks
              intro callee calls
              apply inductionHypothesis
              have less := (narrows call callee calls).depth_lt
              omega
          _ = answer call := congrFun solves call

/-! ## Initial values -/

namespace Initial

/-- The calls for the value of a type: for the elements of a tuple, the required properties of an
object, the first present member of a union that is no choice among texts, the merged object of
objects that hold together, and the type of a name that is followed. -/
inductive Calls (arena : Keyed Declaration) : Call → Call → Prop
  | element {unvisited : List String} {elements : List TypeNode} {element : TypeNode}
      (there : element ∈ elements) : Calls arena ⟨unvisited, .tuple elements⟩ ⟨unvisited, element⟩
  | property {unvisited : List String} {properties : List Property} {label : Option String}
      {property : Property} (there : property ∈ properties)
      (required : property.isOptional = false) :
      Calls arena ⟨unvisited, .object properties label⟩ ⟨unvisited, property.type⟩
  | member {unvisited : List String} {members : List TypeNode} {member : TypeNode}
      (unlisted : TypeNode.textChoices? members = none)
      (first : members.find? (fun member => !member.isEmptyValue) = some member) :
      Calls arena ⟨unvisited, .union members⟩ ⟨unvisited, member⟩
  | merged {unvisited : List String} {members : List TypeNode} (filled : members ≠ [])
      (objects : members.all TypeNode.isObject = true) :
      Calls arena ⟨unvisited, .intersection members⟩
        ⟨unvisited, .object (TypeNode.mergedProperties members) none⟩
  | declared {unvisited : List String} {name : String} {target : Declaration}
      (found : arena.get? name = some target) (storeless : target.hasStore = false)
      (fresh : name ∈ unvisited) :
      Calls arena ⟨unvisited, .reference name⟩ ⟨unvisited.erase name, target.type⟩

theorem Calls.narrows {arena : Keyed Declaration} {caller callee : Call}
    (calls : Calls arena caller callee) : Call.Narrows arena caller callee := by
  cases calls with
  | element there =>
      have bound := TypeNode.size_le_sizeOfAll there
      exact .part (by rw [TypeNode.size]; omega)
  | property there =>
      have bound := TypeNode.size_le_sizeOfProperties there
      exact .part (by rw [TypeNode.size]; omega)
  | member _ first =>
      have bound := TypeNode.size_le_sizeOfAll (List.mem_of_find?_eq_some first)
      exact .part (by rw [TypeNode.size]; omega)
  | merged filled objects => exact .part (TypeNode.size_mergedProperties_lt filled objects)
  | declared found _ fresh => exact .declared found fresh

/-- The value of a type from the values that its calls have. -/
def step (arena : Keyed Declaration) (value : Call → Initial) : Call → Initial
  | ⟨_, .primitive name⟩ => ofPrimitive name
  | ⟨_, .literal scalar⟩ => .literal scalar
  | ⟨_, .enumeration members _⟩ =>
      members.head?.elim .absent (fun member => .literal member.value.scalar)
  | ⟨_, .array _⟩ => .list []
  | ⟨unvisited, .tuple elements⟩ =>
      .list (elements.map (fun element => value ⟨unvisited, element⟩))
  | ⟨_, .record _ _⟩ => .object []
  | ⟨unvisited, .object properties _⟩ =>
      .object (properties.map (fun property =>
        (property.name, if property.isOptional then .absent else value ⟨unvisited, property.type⟩)))
  | ⟨unvisited, .union members⟩ =>
      match TypeNode.textChoices? members with
      | some texts => texts.head?.elim .absent (fun content => .literal (.text content))
      | none =>
          (members.find? (fun member => !member.isEmptyValue)).elim .absent
            (fun member => value ⟨unvisited, member⟩)
  | ⟨unvisited, .intersection members⟩ =>
      if members ≠ [] ∧ members.all TypeNode.isObject = true then
        value ⟨unvisited, .object (TypeNode.mergedProperties members) none⟩
      else
        .object []
  | ⟨unvisited, .reference name⟩ =>
      match arena.get? name with
      | none => .constant name
      | some target =>
          if target.hasStore = false ∧ name ∈ unvisited then
            value ⟨unvisited.erase name, target.type⟩
          else
            .constant name
  | ⟨_, .function⟩ | ⟨_, .unknown _⟩ => .absent

/-- The value that a call has. -/
def ofCall (arena : Keyed Declaration) (call : Call) : Initial :=
  ofNode (ofReference arena call.unvisited) call.node

theorem step_asks (arena : Keyed Declaration) (first second : Call → Initial) (caller : Call)
    (agree : ∀ callee, Calls arena caller callee → first callee = second callee) :
    step arena first caller = step arena second caller := by
  obtain ⟨unvisited, node⟩ := caller
  cases node with
  | tuple elements =>
      have each : ∀ element ∈ elements, first ⟨unvisited, element⟩ = second ⟨unvisited, element⟩ :=
        fun _ there => agree _ (.element there)
      rw [step, step, List.map_congr_left each]
  | object properties label =>
      rw [step, step]
      congr 1
      apply List.map_congr_left
      intro property there
      cases required : property.isOptional with
      | true => rfl
      | false => rw [agree _ (.property there required)]
  | union members =>
      rw [step, step]
      cases choices : TypeNode.textChoices? members with
      | some texts => rfl
      | none =>
          cases found : members.find? (fun member => !member.isEmptyValue) with
          | none => rfl
          | some member => exact agree _ (.member choices found)
  | intersection members =>
      rw [step, step]
      split
      · rename_i merging
        exact agree _ (.merged merging.1 merging.2)
      · rfl
  | reference name =>
      rw [step, step]
      split
      · rfl
      · rename_i target found
        split
        · rename_i following
          exact agree _ (.declared found following.1 following.2)
        · rfl
  | _ => rfl

/-- The values of calls solve the equation of the recursion. -/
theorem step_ofCall (arena : Keyed Declaration) : step arena (ofCall arena) = ofCall arena := by
  funext call
  obtain ⟨unvisited, node⟩ := call
  simp only [ofCall]
  cases node with
  | tuple elements =>
      rw [step, ofNode, ofNodes_eq_map]
      rfl
  | object properties label =>
      rw [step, ofNode, ofProperties_eq_map]
      rfl
  | enumeration members label =>
      cases members with
      | nil => rfl
      | cons member rest => rfl
  | union members =>
      rw [step, ofNode, ofFirstPresent_eq_elim]
      split
      · rename_i texts choices
        rw [TypeNode.eq_map_of_textChoices? choices]
        cases texts with
        | nil => rfl
        | cons content rest => rfl
      · rfl
  | intersection members =>
      rw [step]
      split
      · rename_i merging
        exact (ofNode_of_objects _ merging.2).symm
      · rename_i settled
        cases members with
        | nil => rfl
        | cons member rest =>
            have mixed : ¬ (member :: rest).all TypeNode.isObject = true :=
              fun objects => settled ⟨List.cons_ne_nil member rest, objects⟩
            rw [ofNode, if_neg mixed]
  | reference name =>
      rw [step, ofNode]
      split
      · rename_i missing
        rw [ofReference_settled]
        intro target found
        rw [missing] at found
        cases found
      · rename_i target found
        split
        · rename_i following
          exact (ofReference_followed found following.1 following.2).symm
        · rename_i settled
          rw [ofReference_settled]
          intro other there storeless fresh
          obtain rfl : other = target := Option.some.inj (there.symm.trans found)
          exact settled ⟨storeless, fresh⟩
  | _ => rfl

end Initial

/-! ## Items that merge -/

namespace TypeNode

/-- The calls for whether items merge: for the members of a union, and for the type of a name that is
followed. -/
inductive MergeCalls (arena : Keyed Declaration) : Call → Call → Prop
  | member {unvisited : List String} {members : List TypeNode} {member : TypeNode}
      (there : member ∈ members) : MergeCalls arena ⟨unvisited, .union members⟩ ⟨unvisited, member⟩
  | declared {unvisited : List String} {name : String} {target : Declaration}
      (found : arena.get? name = some target) (fresh : name ∈ unvisited) :
      MergeCalls arena ⟨unvisited, .reference name⟩ ⟨unvisited.erase name, target.type⟩

theorem MergeCalls.narrows {arena : Keyed Declaration} {caller callee : Call}
    (calls : MergeCalls arena caller callee) : Call.Narrows arena caller callee := by
  cases calls with
  | member there =>
      have bound := size_le_sizeOfAll there
      exact .part (by rw [size]; omega)
  | declared found fresh => exact .declared found fresh

/-- Whether items of a type merge, from the answers to its calls. -/
def mergeStep (arena : Keyed Declaration) (merging : Call → Bool) : Call → Bool
  | ⟨_, .object _ _⟩ | ⟨_, .intersection _⟩ | ⟨_, .record _ _⟩ => true
  | ⟨unvisited, .union members⟩ =>
      !members.isEmpty && members.all (fun member => merging ⟨unvisited, member⟩)
  | ⟨unvisited, .reference name⟩ =>
      match arena.get? name with
      | none => true
      | some target =>
          if name ∈ unvisited then
            merging ⟨unvisited.erase name, target.type⟩
          else
            target.isObjectRoot
  | _ => false

/-- The answer to a call. -/
def mergesCall (arena : Keyed Declaration) (call : Call) : Bool :=
  call.node.mergesWith (referenceMerges arena call.unvisited)

theorem mergeStep_asks (arena : Keyed Declaration) (first second : Call → Bool) (caller : Call)
    (agree : ∀ callee, MergeCalls arena caller callee → first callee = second callee) :
    mergeStep arena first caller = mergeStep arena second caller := by
  obtain ⟨unvisited, node⟩ := caller
  cases node with
  | union members =>
      have each : ∀ member ∈ members, first ⟨unvisited, member⟩ = second ⟨unvisited, member⟩ :=
        fun _ there => agree _ (.member there)
      have all : members.all (fun member => first ⟨unvisited, member⟩) =
          members.all (fun member => second ⟨unvisited, member⟩) := by
        rw [Bool.eq_iff_iff, List.all_eq_true, List.all_eq_true]
        exact forall₂_congr (fun member there => by rw [each member there])
      rw [mergeStep, mergeStep, all]
  | reference name =>
      rw [mergeStep, mergeStep]
      split
      · rfl
      · rename_i target found
        split
        · rename_i fresh
          exact agree _ (.declared found fresh)
        · rfl
  | _ => rfl

theorem allMergeWith_eq_all (reference : String → Bool) (members : List TypeNode) :
    allMergeWith reference members = members.all (mergesWith reference) := by
  induction members with
  | nil => rfl
  | cons member rest inductionHypothesis =>
      rw [allMergeWith, inductionHypothesis, List.all_cons]

theorem mergeStep_mergesCall (arena : Keyed Declaration) :
    mergeStep arena (mergesCall arena) = mergesCall arena := by
  funext call
  obtain ⟨unvisited, node⟩ := call
  cases node with
  | union members =>
      rw [mergeStep, mergesCall, mergesWith, allMergeWith_eq_all]
      rfl
  | reference name =>
      rw [mergeStep, mergesCall, mergesWith, referenceMerges]
      rfl
  | _ => rfl

end TypeNode

/-- Whatever the declarations refer to, the recursions for the initial value of a type and for
whether its items merge end, with the answers that are given for fields. -/
theorem following_names_ends (arena : Keyed Declaration) :
    RecursionEnds arena (Initial.Calls arena) (Initial.step arena) (Initial.ofCall arena) ∧
      RecursionEnds arena (TypeNode.MergeCalls arena) (TypeNode.mergeStep arena)
        (TypeNode.mergesCall arena) ∧
      ∀ node : TypeNode,
        Initial.ofField arena false (some node) = Initial.ofCall arena ⟨arena.keys, node⟩ ∧
          node.merges arena = TypeNode.mergesCall arena ⟨arena.keys, node⟩ := by
  refine ⟨?_, ?_, fun node => ⟨rfl, rfl⟩⟩
  · exact .of_narrows (fun _ _ => Initial.Calls.narrows) (Initial.step_asks arena)
      (Initial.step_ofCall arena)
  · exact .of_narrows (fun _ _ => TypeNode.MergeCalls.narrows) (TypeNode.mergeStep_asks arena)
      (TypeNode.mergeStep_mergesCall arena)

end TypeScaffold
