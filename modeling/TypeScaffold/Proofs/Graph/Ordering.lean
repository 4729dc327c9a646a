import Mathlib.Data.List.Chain
import Mathlib.Data.List.Nodup
import TypeScaffold.Graph.Order
import TypeScaffold.Proofs.Graph.Path

/-!
# The dependency order

Either the traversal lists every name of the graph once, after all names that it leads to, or it
reports a circle of the graph. One invariant carries both: an order is *settled* if the dependencies
of each name stand before it, and the names behind the traversal form a *trail*, each depending on
the next.
-/

namespace TypeScaffold

open Relation

/-- The circle runs through distinct names of the graph, each depending on the next, and ends where
it began. -/
def Circle.RunsIn (graph : Graph) (circle : Circle) : Prop :=
  ∃ first rest, circle.path = first :: rest ++ [first] ∧ (first :: rest).Nodup ∧
    (∀ name ∈ first :: rest, graph.has name = true) ∧ circle.path.IsChain graph.DependsOn

/-- Every name on a closed path leads back to itself. -/
theorem Graph.leadsTo_self_of_isChain {graph : Graph} {first name : String} {rest : List String}
    (chain : (first :: rest ++ [first]).IsChain graph.DependsOn) (member : name ∈ first :: rest) :
    graph.LeadsTo name name := by
  have linked : (first :: rest ++ [first]).IsChain graph.LeadsTo :=
    chain.imp (fun _ _ => TransGen.single)
  obtain ⟨ahead, _, around⟩ := List.pairwise_append.mp (List.isChain_iff_pairwise.mp linked)
  have back : graph.LeadsTo name first := around name member first (List.mem_singleton_self first)
  rcases List.mem_cons.mp member with rfl | later
  · exact back
  · exact TransGen.trans back (List.rel_of_pairwise_cons ahead later)

theorem Circle.RunsIn.exists_leadsTo_self {graph : Graph} {circle : Circle}
    (runs : circle.RunsIn graph) : ∃ name, graph.LeadsTo name name := by
  obtain ⟨first, rest, path, _, _, chain⟩ := runs
  rw [path] at chain
  exact ⟨first, Graph.leadsTo_self_of_isChain chain List.mem_cons_self⟩

namespace Graph

/-- Each name of the order stands behind those of its dependencies that the graph has. -/
structure Settled (graph : Graph) (order : List String) : Prop where
  distinct : order.Nodup
  known : ∀ name ∈ order, graph.has name = true
  closed : ∀ initial name, initial ++ [name] <+: order → ∀ dependency,
    graph.DependsOn name dependency → graph.has dependency = true → dependency ∈ initial

/-- A traversal of names with a path behind it has made an order out of another one. -/
structure Extends (graph : Graph) (path names order result : List String) : Prop where
  kept : order <+: result
  settled : graph.Settled result
  taken : ∀ name ∈ names, graph.has name = true → name ∈ result
  reached : ∀ name ∈ result, name ∈ order ∨ ∃ start ∈ names, graph.Reaches start name
  offPath : ∀ name ∈ path, name ∈ result → name ∈ order

/-- Distinct names of the graph, each depending on the next and the last on the given name. -/
structure Trail (graph : Graph) (path : List String) (name : String) : Prop where
  distinct : path.Nodup
  known : ∀ member ∈ path, graph.has member = true
  chain : (path ++ [name]).IsChain graph.DependsOn

/-- What a traversal answers: a longer order, or a circle of the graph. -/
def Answers (graph : Graph) (path names order : List String) :
    Except Circle (List String) → Prop
  | .ok result => graph.Extends path names order result
  | .error circle => circle.RunsIn graph

/-! ## Settled orders -/

theorem settled_nil (graph : Graph) : graph.Settled [] where
  distinct := List.nodup_nil
  known := by
    intro name member
    cases member
  closed := by
    intro initial name prefixed
    exact absurd (List.prefix_nil.mp prefixed) (List.append_ne_nil_of_right_ne_nil _ (by simp))

/-- An order stays settled when a new name follows its dependencies. -/
theorem Settled.concat {graph : Graph} {order : List String} {name : String}
    (settled : graph.Settled order) (fresh : name ∉ order) (known : graph.has name = true)
    (complete : ∀ dependency, graph.DependsOn name dependency → graph.has dependency = true →
      dependency ∈ order) :
    graph.Settled (order ++ [name]) where
  distinct := by
    rw [← List.concat_eq_append]
    exact settled.distinct.concat fresh
  known := by
    intro member there
    rcases List.mem_append.mp there with old | new
    · exact settled.known member old
    · exact List.mem_singleton.mp new ▸ known
  closed := by
    intro initial member prefixed dependency step has
    rcases List.prefix_concat_iff.mp prefixed with whole | earlier
    · obtain ⟨rfl, last⟩ := List.append_inj' whole rfl
      cases last
      exact complete dependency step has
    · exact settled.closed initial member earlier dependency step has

theorem Settled.mem_of_dependsOn {graph : Graph} {order initial : List String}
    (settled : graph.Settled order) (prefixed : initial <+: order) {name dependency : String}
    (member : name ∈ initial) (step : graph.DependsOn name dependency)
    (known : graph.has dependency = true) : dependency ∈ initial := by
  obtain ⟨before, after, rfl⟩ := List.append_of_mem member
  have upTo : before ++ [name] <+: before ++ name :: after := ⟨after, by simp⟩
  exact List.mem_append_left _ (settled.closed before name (upTo.trans prefixed) dependency step known)

/-- With a name an initial part holds all names of the graph that it leads to. -/
theorem Settled.mem_of_leadsTo {graph : Graph} {order initial : List String}
    (settled : graph.Settled order) (prefixed : initial <+: order) {first last : String}
    (member : first ∈ initial) (path : graph.LeadsTo first last)
    (known : graph.has last = true) : last ∈ initial := by
  induction path with
  | single step => exact settled.mem_of_dependsOn prefixed member step known
  | tail _ step inductionHypothesis =>
      have middle := inductionHypothesis (has_of_dependsOn step)
      exact settled.mem_of_dependsOn prefixed middle step known

/-- A name of a settled order is on no circle: its dependencies stand before it, and so does all that
these lead to. -/
theorem Settled.not_leadsTo_self {graph : Graph} {order : List String}
    (settled : graph.Settled order) {name : String} (member : name ∈ order) :
    ¬ graph.LeadsTo name name := by
  intro circle
  obtain ⟨before, after, rfl⟩ := List.append_of_mem member
  obtain ⟨second, step, rest⟩ := TransGen.head'_iff.mp circle
  have known := settled.known name member
  have upTo : before ++ [name] <+: before ++ name :: after := ⟨after, by simp⟩
  have early : before <+: before ++ name :: after := List.prefix_append _ _
  have again : name ∈ before := by
    rcases reflTransGen_iff_eq_or_transGen.mp rest with rfl | path
    · exact settled.closed before name upTo name step known
    · have there := settled.closed before name upTo second step (has_of_leadsTo path)
      exact settled.mem_of_leadsTo early there path known
  exact (List.disjoint_of_nodup_append settled.distinct) again List.mem_cons_self

theorem Settled.idxOf_lt_of_leadsTo {graph : Graph} {order : List String}
    (settled : graph.Settled order) {first last : String}
    (lastMember : last ∈ order) (firstMember : first ∈ order)
    (path : graph.LeadsTo first last) (apart : last ≠ first) :
    order.idxOf last < order.idxOf first := by
  -- The part of the order up to the name holds what the name leads to.
  have there : first ∈ order.take (order.idxOf first + 1) :=
    (List.mem_take_iff_idxOf_lt firstMember).mpr (by omega)
  have known := settled.known last lastMember
  have upTo := (List.mem_take_iff_idxOf_lt lastMember).mp
    (settled.mem_of_leadsTo (List.take_prefix _ _) there path known)
  have unequal : order.idxOf last ≠ order.idxOf first :=
    fun equal => apart ((List.idxOf_inj lastMember).mp equal)
  omega

/-! ## Steps of a traversal -/

theorem Extends.refl {graph : Graph} {order : List String} (path : List String)
    (settled : graph.Settled order) : graph.Extends path [] order order where
  kept := List.prefix_rfl
  settled := settled
  taken := by
    intro name member
    cases member
  reached := by
    intro name member
    exact Or.inl member
  offPath := by
    intro name _ member
    exact member

theorem Extends.skip {graph : Graph} {order : List String} {name : String} (path : List String)
    (settled : graph.Settled order) (done : graph.has name = true → name ∈ order) :
    graph.Extends path [name] order order where
  kept := List.prefix_rfl
  settled := settled
  taken := by
    intro member there known
    obtain rfl := List.mem_singleton.mp there
    exact done known
  reached := by
    intro member there
    exact Or.inl there
  offPath := by
    intro member _ there
    exact there

theorem Extends.trans {graph : Graph} {path first second order middle result : List String}
    (before : graph.Extends path first order middle)
    (after : graph.Extends path second middle result) :
    graph.Extends path (first ++ second) order result where
  kept := before.kept.trans after.kept
  settled := after.settled
  taken := by
    intro name member known
    rcases List.mem_append.mp member with early | late
    · exact after.kept.subset (before.taken name early known)
    · exact after.taken name late known
  reached := by
    intro name member
    rcases after.reached name member with there | ⟨start, startMember, path⟩
    · rcases before.reached name there with old | ⟨start, startMember, path⟩
      · exact Or.inl old
      · exact Or.inr ⟨start, List.mem_append_left second startMember, path⟩
    · exact Or.inr ⟨start, List.mem_append_right first startMember, path⟩
  offPath := by
    intro name onPath member
    exact before.offPath name onPath (after.offPath name onPath member)

theorem mem_children {graph : Graph} {name dependency : String} :
    dependency ∈ (NameSet.ofList (graph.dependencies name)).filter graph.has ↔
      graph.DependsOn name dependency ∧ graph.has dependency = true := by
  rw [List.mem_filter, NameSet.mem_ofList, DependsOn]

/-- A name follows its dependencies once they have been visited. -/
theorem Extends.concat {graph : Graph} {path order result : List String} {name : String}
    (visited : graph.Extends (path ++ [name])
      ((NameSet.ofList (graph.dependencies name)).filter graph.has) order result)
    (fresh : name ∉ order) (known : graph.has name = true) (notOnPath : name ∉ path) :
    graph.Extends path [name] order (result ++ [name]) where
  kept := visited.kept.trans (List.prefix_append result [name])
  settled := by
    apply visited.settled.concat _ known
    · intro dependency step has
      exact visited.taken dependency (mem_children.mpr ⟨step, has⟩) has
    · intro there
      exact fresh (visited.offPath name (List.mem_append_right path List.mem_cons_self) there)
  taken := by
    intro member there _
    exact List.mem_append_right result there
  reached := by
    intro member there
    rcases List.mem_append.mp there with old | new
    · rcases visited.reached member old with early | ⟨start, startMember, rest⟩
      · exact Or.inl early
      · have step : graph.DependsOn name start := (mem_children.mp startMember).1
        exact Or.inr ⟨name, List.mem_cons_self, ReflTransGen.head step rest⟩
    · exact Or.inr ⟨name, List.mem_cons_self, List.mem_singleton.mp new ▸ ReflTransGen.refl⟩
  offPath := by
    intro member onPath there
    rcases List.mem_append.mp there with old | new
    · exact visited.offPath member (List.mem_append_left [name] onPath) old
    · exact absurd (List.mem_singleton.mp new ▸ onPath) notOnPath

/-- A trail goes on from a name to each of its dependencies. -/
theorem Trail.step {graph : Graph} {path : List String} {name dependency : String}
    (trail : graph.Trail path name) (known : graph.has name = true) (fresh : name ∉ path)
    (step : graph.DependsOn name dependency) : graph.Trail (path ++ [name]) dependency where
  distinct := by
    rw [← List.concat_eq_append]
    exact trail.distinct.concat fresh
  known := by
    intro member there
    rcases List.mem_append.mp there with old | new
    · exact trail.known member old
    · exact List.mem_singleton.mp new ▸ known
  chain := by
    rw [List.isChain_append]
    refine ⟨trail.chain, List.isChain_singleton dependency, ?_⟩
    intro last lastIs first firstIs
    simp only [List.getLast?_append_cons, List.getLast?_singleton, Option.mem_def,
      Option.some.injEq, List.head?_cons] at lastIs firstIs
    subst lastIs firstIs
    exact step

private theorem dropWhile_ne_append {before after : List String} {name : String}
    (fresh : name ∉ before) :
    (before ++ name :: after).dropWhile (· ≠ name) = name :: after := by
  induction before with
  | nil => simp
  | cons head rest inductionHypothesis =>
      obtain ⟨different, freshRest⟩ := not_or.mp (mt List.mem_cons.mpr fresh)
      simpa [Ne.symm different] using inductionHypothesis freshRest

/-- A trail that comes back to one of its names closes a circle. -/
theorem Trail.circle {graph : Graph} {path : List String} {name : String}
    (trail : graph.Trail path name) (onPath : name ∈ path) :
    (Circle.mk (path.dropWhile (· ≠ name) ++ [name])).RunsIn graph := by
  obtain ⟨before, after, rfl, fresh⟩ := List.eq_append_cons_of_mem onPath
  rw [dropWhile_ne_append fresh]
  refine ⟨name, after, rfl, ?_, ?_, ?_⟩
  · exact trail.distinct.of_append_right
  · intro member there
    exact trail.known member (List.mem_append_right before there)
  · have chain := trail.chain
    rw [List.append_assoc] at chain
    exact chain.right_of_append

/-! ## The traversal -/

private theorem answers_both (graph : Graph) :
    (∀ path name order, graph.Settled order → graph.Trail path name →
      graph.Answers path [name] order (graph.visit path name order)) ∧
    ∀ path names order, graph.Settled order → (∀ name ∈ names, graph.Trail path name) →
      graph.Answers path names order (graph.visitAll path names order) := by
  -- The traversal of a name and that of a list call each other, so both answers come at once.
  refine visit.mutual_induct graph
    (fun path name order => graph.Settled order → graph.Trail path name →
      graph.Answers path [name] order (graph.visit path name order))
    (fun path names order => graph.Settled order → (∀ name ∈ names, graph.Trail path name) →
      graph.Answers path names order (graph.visitAll path names order))
    ?listed ?onPath ?visited ?refused ?unknown ?nil ?cons ?stopped
  case listed =>
    intro path name order listed settled _
    rw [visit, if_pos listed]
    exact Extends.skip path settled (fun _ => List.contains_iff_mem.mp listed)
  case onPath =>
    intro path name order fresh known onPath settled trail
    rw [visit, if_neg fresh, dif_pos known, dif_pos onPath]
    exact trail.circle (List.contains_iff_mem.mp onPath)
  case visited =>
    intro path name order fresh known notOnPath result visited inductionHypothesis settled trail
    rw [List.contains_iff_mem] at fresh notOnPath
    have extended := inductionHypothesis settled (fun dependency child =>
      trail.step known notOnPath (mem_children.mp child).1)
    rw [visited] at extended
    rw [visit, if_neg (by simpa using fresh), dif_pos known, dif_neg (by simpa using notOnPath),
      visited]
    exact Extends.concat extended fresh known notOnPath
  case refused =>
    intro path name order fresh known notOnPath circle visited inductionHypothesis settled trail
    rw [List.contains_iff_mem] at notOnPath
    have answer := inductionHypothesis settled (fun dependency child =>
      trail.step known notOnPath (mem_children.mp child).1)
    rw [visited] at answer
    rw [visit, if_neg fresh, dif_pos known, dif_neg (by simpa using notOnPath), visited]
    exact answer
  case unknown =>
    intro path name order fresh unknown settled _
    rw [visit, if_neg fresh, dif_neg unknown]
    exact Extends.skip path settled (fun known => absurd known unknown)
  case nil =>
    intro path order settled _
    rw [visitAll]
    exact Extends.refl path settled
  case cons =>
    intro path name rest order middle visited first others settled trails
    have extended := first settled (trails name List.mem_cons_self)
    rw [visited] at extended
    have answer := others extended.settled
      (fun member there => trails member (List.mem_cons_of_mem name there))
    rw [visitAll, visited]
    change graph.Answers path (name :: rest) order (graph.visitAll path rest middle)
    cases visitedRest : graph.visitAll path rest middle with
    | ok result =>
        rw [visitedRest] at answer
        exact Extends.trans extended answer
    | error circle =>
        rw [visitedRest] at answer
        exact answer
  case stopped =>
    intro path name rest order circle visited first settled trails
    have answer := first settled (trails name List.mem_cons_self)
    rw [visited] at answer
    rw [visitAll, visited]
    exact answer

theorem answers_visit {graph : Graph} {path order : List String} {name : String}
    (settled : graph.Settled order) (trail : graph.Trail path name) :
    graph.Answers path [name] order (graph.visit path name order) :=
  (answers_both graph).1 path name order settled trail

theorem answers_visitAll {graph : Graph} {path names order : List String}
    (settled : graph.Settled order) (trails : ∀ name ∈ names, graph.Trail path name) :
    graph.Answers path names order (graph.visitAll path names order) :=
  (answers_both graph).2 path names order settled trails

/-! ## Orders of whole graphs -/

theorem trail_nil (graph : Graph) (name : String) : graph.Trail [] name where
  distinct := List.nodup_nil
  known := by
    intro member there
    cases there
  chain := List.isChain_singleton name

theorem answers_order (graph : Graph) : graph.Answers [] graph.keys [] graph.order :=
  answers_visitAll (settled_nil graph) (fun name _ => trail_nil graph name)

theorem extends_of_order {graph : Graph} {names : List String} (sorted : graph.order = .ok names) :
    graph.Extends [] graph.keys [] names := by
  have answer := graph.answers_order
  rwa [sorted] at answer

theorem mem_of_order {graph : Graph} {names : List String} (sorted : graph.order = .ok names)
    {name : String} : name ∈ names ↔ graph.has name = true := by
  have extended := extends_of_order sorted
  constructor
  · exact extended.settled.known name
  · intro known
    exact extended.taken name (has_iff.mp known) known

theorem exists_order {graph : Graph} (acyclic : ∀ name, ¬ graph.LeadsTo name name) :
    ∃ names, graph.order = .ok names := by
  have answer := graph.answers_order
  cases sorted : graph.order with
  | ok names => exact ⟨names, rfl⟩
  | error circle =>
      rw [sorted] at answer
      obtain ⟨name, path⟩ := Circle.RunsIn.exists_leadsTo_self answer
      exact absurd path (acyclic name)

/-- The first name of a graph follows only names that it reaches. -/
theorem exists_prefix_of_order {graph : Graph} {first : String} {rest names : List String}
    (keys : graph.keys = first :: rest) (sorted : graph.order = .ok names) :
    ∃ initial, initial <+: names ∧ first ∈ initial ∧
      ∀ name ∈ initial, graph.Reaches first name := by
  have known : graph.has first = true := has_iff.mpr (keys ▸ List.mem_cons_self)
  have start := answers_visit (settled_nil graph) (trail_nil graph first)
  rw [order, keys, visitAll] at sorted
  cases visited : graph.visit [] first [] with
  | error circle =>
      rw [visited] at sorted
      cases sorted
  | ok initial =>
      rw [visited] at sorted start
      change graph.visitAll [] rest initial = .ok names at sorted
      have others : graph.Answers [] rest initial (graph.visitAll [] rest initial) :=
        answers_visitAll start.settled (fun name _ => trail_nil graph name)
      rw [sorted] at others
      refine ⟨initial, others.kept, start.taken first List.mem_cons_self known, ?_⟩
      intro name member
      rcases start.reached name member with nowhere | ⟨only, onlyMember, path⟩
      · cases nowhere
      · exact List.mem_singleton.mp onlyMember ▸ path

end Graph

end TypeScaffold
