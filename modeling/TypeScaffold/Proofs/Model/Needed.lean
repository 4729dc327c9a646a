import Mathlib.Data.List.Find
import TypeScaffold.Proofs.Model.Shadowing
import TypeScaffold.Proofs.NameSet

/-!
# Needed names

An exported declaration needs the names to which a path leads from one of its dependencies, declared or
not. The declaration itself is needed only if a path leads to it as to any other name. A declaration
that is neither exported nor needed has no part in this: without it the same names are needed.
-/

namespace TypeScaffold

open Relation

/-- The declaration is exported, and a path leads from one of its dependencies to the name. -/
def Declaration.Needs (declaration : Declaration) (graph : Graph) (name : String) : Prop :=
  declaration.exported = true ∧ ∃ start ∈ declaration.dependencies, graph.Reaches start name

theorem Declaration.Needs.of_dependsOn {declaration : Declaration} {graph : Graph}
    {name dependency : String} (needs : declaration.Needs graph name)
    (step : graph.DependsOn name dependency) : declaration.Needs graph dependency := by
  obtain ⟨exported, start, member, path⟩ := needs
  exact ⟨exported, start, member, path.tail step⟩

/-- What a declaration needs in one graph it needs in another that has the same dependencies of the
names that it needs there. -/
theorem Declaration.Needs.of_agree {declaration : Declaration} {graph other : Graph} {name : String}
    (needs : declaration.Needs graph name)
    (agree : ∀ middle, declaration.Needs other middle →
      ∀ dependency, graph.DependsOn middle dependency → other.DependsOn middle dependency) :
    declaration.Needs other name := by
  obtain ⟨exported, start, member, path⟩ := needs
  induction path with
  | refl => exact ⟨exported, start, member, ReflTransGen.refl⟩
  | tail _ step inductionHypothesis =>
      exact inductionHypothesis.of_dependsOn (agree _ inductionHypothesis _ step)

namespace Model

theorem mem_neededNames_iff_needs {model : Model} {name : String} :
    name ∈ model.neededNames ↔
      ∃ declaration ∈ model.declarations, declaration.Needs model.graph name :=
  mem_neededNames

/-! ## Leaving declarations out -/

/-- The model without the declarations that pass the test. -/
def without (model : Model) (dropped : Declaration → Bool) : Model :=
  { model with declarations := model.declarations.filter (fun declaration => !dropped declaration) }

theorem mem_without {model : Model} {dropped : Declaration → Bool} {declaration : Declaration} :
    declaration ∈ (model.without dropped).declarations ↔
      declaration ∈ model.declarations ∧ dropped declaration = false := by
  rw [without, List.mem_filter, Bool.not_eq_true']

/-- A name of which no declaration is left out is declared as before. -/
theorem get?_arena_without {model : Model} {dropped : Declaration → Bool} {name : String}
    (kept : ∀ declaration ∈ model.declarations, declaration.name = name →
      dropped declaration = false) :
    (model.without dropped).arena.get? name = model.arena.get? name := by
  rw [← last?_eq_get?_arena, ← last?_eq_get?_arena, last?, last?, without, ← List.filter_reverse,
    List.find?_filter]
  apply List.find?_congr
  intro declaration member
  by_cases named : declaration.name = name
  · simp [named, kept declaration (List.mem_reverse.mp member) named]
  · simp [named]

/-- The declarations that pass the test are neither exported nor needed. -/
def CanSpare (model : Model) (dropped : Declaration → Bool) : Prop :=
  ∀ declaration ∈ model.declarations, dropped declaration = true →
    declaration.exported = false ∧ declaration.name ∉ model.neededNames

section CanSpare

variable {model : Model} {dropped : Declaration → Bool} (spares : model.CanSpare dropped)

include spares

theorem CanSpare.dependsOn_iff {name dependency : String} (needed : name ∈ model.neededNames) :
    (model.without dropped).graph.DependsOn name dependency ↔
      model.graph.DependsOn name dependency := by
  rw [Model.dependsOn_iff, Model.dependsOn_iff, get?_arena_without]
  intro declaration member named
  cases leftOut : dropped declaration with
  | false => rfl
  | true => exact absurd (named ▸ needed) (spares declaration member leftOut).2

theorem CanSpare.mem_without_of_exported {declaration : Declaration}
    (member : declaration ∈ model.declarations) (exported : declaration.exported = true) :
    declaration ∈ (model.without dropped).declarations := by
  cases leftOut : dropped declaration with
  | false => exact mem_without.mpr ⟨member, leftOut⟩
  | true =>
      rw [(spares declaration member leftOut).1] at exported
      cases exported

/-- A declaration needs the same names in the graph of the rest. -/
theorem CanSpare.needs_iff {declaration : Declaration} (member : declaration ∈ model.declarations)
    {name : String} :
    declaration.Needs (model.without dropped).graph name ↔ declaration.Needs model.graph name := by
  have needed {middle : String} (needs : declaration.Needs model.graph middle) :
      middle ∈ model.neededNames :=
    mem_neededNames_iff_needs.mpr ⟨declaration, member, needs⟩
  have inWhole {middle : String} (needs : declaration.Needs (model.without dropped).graph middle) :
      declaration.Needs model.graph middle :=
    needs.of_agree (fun _ there _ step => (spares.dependsOn_iff (needed there)).mp step)
  constructor
  · exact inWhole
  · intro needs
    -- Whatever is reached in the rest is needed in the whole model, where both graphs agree.
    exact needs.of_agree (fun _ there _ step =>
      (spares.dependsOn_iff (needed (inWhole there))).mpr step)

theorem CanSpare.neededNames_eq : (model.without dropped).neededNames = model.neededNames := by
  apply NameSet.eq_of_mem_iff
  intro name
  change name ∈ (model.without dropped).neededNames ↔ name ∈ model.neededNames
  rw [mem_neededNames_iff_needs, mem_neededNames_iff_needs]
  constructor
  · intro needed
    obtain ⟨declaration, kept, needs⟩ := needed
    have member := (mem_without.mp kept).1
    exact ⟨declaration, member, (spares.needs_iff member).mp needs⟩
  · intro needed
    obtain ⟨declaration, member, needs⟩ := needed
    exact ⟨declaration, spares.mem_without_of_exported member needs.1,
      (spares.needs_iff member).mpr needs⟩

end CanSpare

/-- The needed names are those to which a path leads from a dependency of an exported declaration.
Without declarations that are neither exported nor needed the needed names are the same. -/
theorem neededNames_reached_from_exported (model : Model) :
    model.neededNames.Nodup ∧
      (∀ name, name ∈ model.neededNames ↔
        ∃ declaration ∈ model.declarations, declaration.exported = true ∧
          ∃ start ∈ declaration.dependencies, model.graph.Reaches start name) ∧
      ∀ dropped : Declaration → Bool,
        (∀ declaration ∈ model.declarations, dropped declaration = true →
          declaration.exported = false ∧ declaration.name ∉ model.neededNames) →
        (model.without dropped).neededNames = model.neededNames := by
  refine ⟨NameSet.nodup_ofList _, fun _ => mem_neededNames, ?_⟩
  intro dropped spares
  exact CanSpare.neededNames_eq spares

/-- An exported report has sections, which may have sections and notes. Of the two declarations of a
note the last one counts, so the author is needed by none. -/
def reportModel : Model where
  declarations :=
    [⟨"Report", .array (some (.reference "Section")), ["Section", "Money"], true⟩,
      ⟨"Note", .reference "Author", ["Author"], false⟩,
      ⟨"Section", .tuple [.reference "Section", .reference "Note"], ["Section", "Note"], false⟩,
      ⟨"Note", .array (some (.reference "Section")), ["Section"], false⟩,
      ⟨"Author", .primitive "string", [], false⟩,
      ⟨"Archive", .array (some (.reference "Report")), ["Report"], false⟩]
  errors := []

theorem report_needs_notes :
    (∃ declaration ∈ reportModel.declarations, declaration.exported = true ∧
        ∃ start ∈ declaration.dependencies, reportModel.graph.Reaches start "Note") ∧
      (∀ name ∈ ["Report", "Author", "Archive"], name ∉ reportModel.neededNames) ∧
      (¬ ∃ declaration ∈ reportModel.declarations, declaration.exported = true ∧
        ∃ start ∈ declaration.dependencies, reportModel.graph.Reaches start "Author") ∧
      (reportModel.without (fun declaration =>
        ["Author", "Archive"].contains declaration.name)).neededNames =
          reportModel.neededNames := by
  obtain ⟨_, reached, spared⟩ := neededNames_reached_from_exported reportModel
  have note : "Note" ∈ reportModel.neededNames := by
    rw [neededNames, NameSet.mem_ofList]
    decide +kernel
  have spare : ∀ name ∈ ["Report", "Author", "Archive"], name ∉ reportModel.neededNames := by
    simp only [neededNames, NameSet.mem_ofList]
    decide +kernel
  have hidden : ∀ declaration ∈ reportModel.declarations,
      ["Author", "Archive"].contains declaration.name = true → declaration.exported = false := by
    decide
  refine ⟨(reached "Note").mp note, spare, ?_, ?_⟩
  · intro needs
    exact spare "Author" (by decide) ((reached "Author").mpr needs)
  · apply spared
    intro declaration member leftOut
    refine ⟨hidden declaration member leftOut, spare declaration.name ?_⟩
    exact List.mem_cons_of_mem "Report" (List.contains_iff_mem.mp leftOut)

end Model

end TypeScaffold
