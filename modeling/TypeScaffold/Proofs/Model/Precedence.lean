import TypeScaffold.Proofs.Model.Arena

/-!
# Dependencies in the order of declarations

The order puts a declared name after another one in every listing of the declarations exactly if a
path of dependencies leads to it that avoids the steps between two recursive names. A dependency is
such a path unless both its ends are recursive. They need not be recursive together: a dependency
between two circles is left out as well, though no path leads back from the second to the first.
-/

namespace TypeScaffold.Model

open Relation

/-- The order of the declarations has the first name before the second. -/
def OrdersBefore (model : Model) (first second : String) : Prop :=
  ∃ declarations, model.ordered = .ok declarations ∧
    (declarations.map Declaration.name).idxOf first <
      (declarations.map Declaration.name).idxOf second

theorem ordersBefore_iff {model : Model} {names : List String}
    (sorted : model.graph.withoutCircles.order = .ok names) {first second : String} :
    model.OrdersBefore first second ↔ names.idxOf first < names.idxOf second := by
  obtain ⟨others, declarations, sortedOthers, ordered, named, _⟩ := model.exists_ordered
  obtain rfl : others = names := Except.ok.inj (sortedOthers.symm.trans sorted)
  constructor
  · intro before
    obtain ⟨same, orderedSame, place⟩ := before
    obtain rfl : same = declarations := Except.ok.inj (orderedSame.symm.trans ordered)
    rwa [named] at place
  · intro place
    refine ⟨declarations, ordered, ?_⟩
    rwa [named]

/-! ## Paths that decide the order -/

section Sorted

variable {model : Model} {names : List String} {first second : String}

/-- The order has a name before all names from which a path without circles leads to it. -/
theorem idxOf_lt_of_leadsTo (sorted : model.graph.withoutCircles.order = .ok names)
    (firstMember : first ∈ names) (secondMember : second ∈ names)
    (path : model.graph.withoutCircles.LeadsTo second first) :
    names.idxOf first < names.idxOf second := by
  have settled := (Graph.extends_of_order sorted).settled
  have apart : first ≠ second := by
    intro same
    rw [same] at path
    exact Graph.not_leadsTo_self_withoutCircles model.graph second path
  exact settled.idxOf_lt_of_leadsTo firstMember secondMember path apart

/-- The first declared name comes before all names that it does not lead to without circles. -/
theorem not_idxOf_lt_of_keys {rest : List String}
    (sorted : model.graph.withoutCircles.order = .ok names)
    (keys : model.graph.keys = second :: rest)
    (apart : ¬ model.graph.withoutCircles.LeadsTo second first) :
    ¬ names.idxOf first < names.idxOf second := by
  by_cases same : first = second
  · rw [same]
    omega
  · have keysWithoutCircles : model.graph.withoutCircles.keys = second :: rest := by
      rw [Graph.keys_withoutCircles, keys]
    obtain ⟨initial, ⟨others, rfl⟩, secondMember, reached⟩ :=
      Graph.exists_prefix_of_order keysWithoutCircles sorted
    -- The traversal begins at the second name and finishes its part of the order before it goes on.
    have firstLater : first ∉ initial := by
      intro there
      rcases reflTransGen_iff_eq_or_transGen.mp (reached first there) with equal | path
      · exact same equal
      · exact apart path
    have inInitial := List.idxOf_lt_length_of_mem secondMember
    rw [List.idxOf_append_of_mem secondMember, List.idxOf_append_of_notMem firstLater]
    omega

end Sorted

theorem ordersBefore_of_leadsTo {model : Model} {first second : String}
    (declared : ∃ declaration, model.arena.get? first = some declaration)
    (path : model.graph.withoutCircles.LeadsTo second first) :
    model.OrdersBefore first second := by
  obtain ⟨names, _, sorted, _⟩ := model.exists_ordered
  have dependent : ∃ declaration, model.arena.get? second = some declaration :=
    has_iff.mp (Graph.has_of_leadsTo (Graph.leadsTo_of_withoutCircles path))
  rw [ordersBefore_iff sorted]
  exact idxOf_lt_of_leadsTo sorted ((mem_of_order sorted).mpr declared)
    ((mem_of_order sorted).mpr dependent) path

theorem not_ordersBefore_of_keys {model : Model} {first second : String} {rest : List String}
    (keys : model.graph.keys = second :: rest)
    (apart : ¬ model.graph.withoutCircles.LeadsTo second first) :
    ¬ model.OrdersBefore first second := by
  obtain ⟨names, _, sorted, _⟩ := model.exists_ordered
  rw [ordersBefore_iff sorted]
  exact not_idxOf_lt_of_keys sorted keys apart

/-- Where no path without circles leads, the declarations can be listed so that the order is the
other way round. -/
theorem exists_rearrangement_not_ordersBefore {model : Model} {first second : String}
    (declared : ∃ declaration, model.arena.get? second = some declaration)
    (apart : ¬ model.graph.withoutCircles.LeadsTo second first) :
    ∃ other : Model, other.Rearranges model ∧ ¬ other.OrdersBefore first second := by
  obtain ⟨declaration, found⟩ := declared
  obtain rfl := (mem_of_get?_arena found).2
  obtain ⟨other, rest, rearranged, keys⟩ := exists_rearrangement_starting found
  have apartToo : ¬ other.graph.withoutCircles.LeadsTo declaration.name first :=
    fun path => apart (rearranged.withoutCircles_leadsTo_iff.mp path)
  exact ⟨other, rearranged, not_ordersBefore_of_keys keys apartToo⟩

/-! ## Single dependencies -/

/-- A dependency is left out exactly if both its ends are recursive. If it is not, the order has the
dependency before the name that depends on it. All listings of the declarations agree on that exactly
if a path leads to the dependency from which nothing is left out. -/
theorem dependency_ordered_before_iff {model : Model} {name dependency : String}
    (declared : ∃ declaration, model.arena.get? dependency = some declaration)
    (depends : model.graph.DependsOn name dependency) :
    (¬ model.graph.withoutCircles.DependsOn name dependency ↔
        model.graph.LeadsTo name name ∧ model.graph.LeadsTo dependency dependency) ∧
      (model.graph.withoutCircles.DependsOn name dependency →
        model.OrdersBefore dependency name) ∧
      ((∀ other : Model, other.Rearranges model → other.OrdersBefore dependency name) ↔
        model.graph.withoutCircles.LeadsTo name dependency) := by
  refine ⟨?_, ?_, ?_, ?_⟩
  · rw [Graph.dependsOn_withoutCircles]
    simp only [depends, true_and, not_not]
  · intro kept
    exact ordersBefore_of_leadsTo declared (TransGen.single kept)
  · intro always
    by_contra apart
    have dependent := has_iff.mp (Graph.has_of_dependsOn depends)
    obtain ⟨other, rearranged, reversed⟩ :=
      exists_rearrangement_not_ordersBefore dependent apart
    exact reversed (always other rearranged)
  · intro path other rearranged
    have declaredToo : ∃ declaration, other.arena.get? dependency = some declaration := by
      rwa [rearranged.get?_arena]
    exact ordersBefore_of_leadsTo declaredToo (rearranged.withoutCircles_leadsTo_iff.mpr path)

/-- An album and its tracks refer to one another, and so do an artist and a label; the album refers
to the artist. -/
def albumModel : Model where
  declarations :=
    [⟨"Album", .object [⟨"tracks", .array (some (.reference "Track")), false⟩,
        ⟨"artist", .reference "Artist", false⟩] none, ["Track", "Artist"], true⟩,
      ⟨"Track", .object [⟨"album", .reference "Album", false⟩,
        ⟨"length", .reference "Duration", false⟩] none, ["Album", "Duration"], true⟩,
      ⟨"Artist", .object [⟨"label", .reference "Label", true⟩] none, ["Label"], true⟩,
      ⟨"Label", .object [⟨"artists", .array (some (.reference "Artist")), false⟩] none,
        ["Artist"], true⟩,
      ⟨"Duration", .object [⟨"seconds", .primitive "number", false⟩] none, [], true⟩]
  errors := []

theorem duration_ordered_before_track :
    (∃ duration, albumModel.arena.get? "Duration" = some duration) ∧
      albumModel.graph.DependsOn "Track" "Duration" ∧
      albumModel.OrdersBefore "Duration" "Track" := by
  have declared : ∃ duration, albumModel.arena.get? "Duration" = some duration := ⟨_, rfl⟩
  have depends : albumModel.graph.DependsOn "Track" "Duration" := by decide
  obtain ⟨dropped, kept, _⟩ := dependency_ordered_before_iff declared depends
  have apart : ¬ albumModel.graph.LeadsTo "Duration" "Duration" := by decide +kernel
  refine ⟨declared, depends, kept ?_⟩
  by_contra missing
  exact apart (dropped.mp missing).2

/-- The album comes before the artist, though no path leads from the artist back to the album. -/
theorem artist_not_ordered_before_album :
    (∃ artist, albumModel.arena.get? "Artist" = some artist) ∧
      albumModel.graph.DependsOn "Album" "Artist" ∧
      ¬ albumModel.graph.LeadsTo "Artist" "Album" ∧
      ¬ albumModel.OrdersBefore "Artist" "Album" := by
  refine ⟨⟨_, rfl⟩, by decide, by decide +kernel, ?_⟩
  have circles : ∀ dependency ∈ albumModel.graph.dependencies "Album",
      albumModel.graph.LeadsTo "Album" "Album" ∧
        albumModel.graph.LeadsTo dependency dependency := by
    decide +kernel
  have apart : ¬ albumModel.graph.withoutCircles.LeadsTo "Album" "Artist" := by
    intro path
    obtain ⟨start, step, _⟩ := TransGen.head'_iff.mp path
    obtain ⟨edge, kept⟩ := Graph.dependsOn_withoutCircles.mp step
    exact kept (circles start edge)
  exact not_ordersBefore_of_keys rfl apart

end TypeScaffold.Model
