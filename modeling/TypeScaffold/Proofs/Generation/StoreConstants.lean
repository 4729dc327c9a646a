import TypeScaffold.Proofs.Generation.Artifacts

/-!
# Constants between the stores of a report

The initial state of a store is evaluated when the module is loaded, so the constants that it
mentions have to be defined, and defined before it. Names in circles stand in its way on both
counts: the order ignores each dependency between two recursive names, and a declaration without a
store that leads back to itself stays a constant, which no store defines. A store with clashing
members is mentioned as well though it is not in the report.
-/

namespace TypeScaffold

open Relation

namespace Model

/-! ## The stores of a model -/

/-- A name has a store if its declaration is an exported object whose members do not clash. -/
theorem storeOf?_eq_some_iff {model : Model} {name : String} {store : Store} :
    model.storeOf? name = some store ↔
      ∃ declaration, model.arena.get? name = some declaration ∧
        declaration.hasStore = true ∧ declaration.members.Nodup ∧
        store = Store.ofFields name model.arena declaration.fields := by
  rw [storeOf?, Option.bind_eq_some_iff]
  constructor
  · intro makes
    obtain ⟨declaration, found, built⟩ := makes
    obtain ⟨stored, distinct, equal⟩ := Store.result_build_eq_some_iff.mp built
    rw [(mem_of_get?_arena found).2] at equal
    exact ⟨declaration, found, stored, distinct, equal⟩
  · intro makes
    obtain ⟨declaration, found, stored, distinct, equal⟩ := makes
    refine ⟨declaration, found, Store.result_build_eq_some_iff.mpr ⟨stored, distinct, ?_⟩⟩
    rw [(mem_of_get?_arena found).2]
    exact equal

/-- In another order of the declarations a store keeps its initial state. -/
theorem Rearranges.storeOf? {other model : Model} (rearranged : other.Rearranges model)
    {name : String} {store : Store} (made : model.storeOf? name = some store) :
    ∃ same, other.storeOf? name = some same ∧ same.defaults = store.defaults := by
  obtain ⟨declaration, found, stored, distinct, rfl⟩ := storeOf?_eq_some_iff.mp made
  have foundToo : other.arena.get? name = some declaration :=
    (rearranged.get?_arena name).trans found
  refine ⟨_, storeOf?_eq_some_iff.mpr ⟨declaration, foundToo, stored, distinct, rfl⟩, ?_⟩
  exact Store.defaults_ofFields_rearranges rearranged name declaration.fields

theorem path_of_mem_constants {model : Model} {name mentioned : String} {store : Store}
    (made : model.storeOf? name = some store) (mentions : mentioned ∈ store.constants) :
    (∃ declaration, model.arena.get? name = some declaration ∧
        ∃ start ∈ declaration.type.references,
          ReflTransGen (Inlines model.arena) start mentioned) ∧
      ∀ target, model.arena.get? mentioned = some target → target.hasStore = false →
        TransGen (Inlines model.arena) mentioned mentioned := by
  obtain ⟨declaration, found, _, _, rfl⟩ := storeOf?_eq_some_iff.mp made
  obtain rfl := (mem_of_get?_arena found).2
  obtain ⟨path, ending⟩ := Store.path_of_mem_constants mentions
  exact ⟨⟨declaration, found, path⟩, ending⟩

theorem leadsTo_of_mem_constants {model : Model} (listed : model.ListsReferences)
    {name mentioned : String} {store : Store} (made : model.storeOf? name = some store)
    (mentions : mentioned ∈ store.constants) : model.graph.LeadsTo name mentioned := by
  obtain ⟨⟨declaration, found, start, refers, path⟩, _⟩ := path_of_mem_constants made mentions
  have first : model.graph.DependsOn name start := listed.dependsOn found refers
  have inlined : ∀ following consulted, Inlines model.arena following consulted →
      model.graph.DependsOn following consulted := by
    intro following consulted inlines
    obtain ⟨target, foundTarget, _, member⟩ := inlines
    exact listed.dependsOn foundTarget (target.type.consulted_subset_references member)
  exact TransGen.head' first (ReflTransGen.mono inlined start mentioned path)

end Model

namespace Generation

theorem emits_store_of_rearranges {settings : Settings} {other model : Model}
    {report otherReport : Report} {name : String} (rearranged : other.Rearranges model)
    (ran : run settings model = .ok report) (ranOther : run settings other = .ok otherReport)
    (emits : report.Emits .store name) : otherReport.Emits .store name := by
  obtain ⟨wanted, store, made⟩ := (emits_store_iff ran).mp emits
  obtain ⟨same, madeToo, _⟩ := rearranged.storeOf? made
  exact (emits_store_iff ranOther).mpr ⟨wanted, same, madeToo⟩

/-! ## Definition before use -/

/-- Every model has a report. Its stores mention only names that theirs lead to. A mentioned store
stands before the one that mentions it just when the order has it earlier. That is so if a path
without circles leads to it, and if none does, the same declarations can be listed so that it is
not. -/
theorem mentioned_store_stands_before_iff (settings : Settings) {model : Model}
    (listed : model.ListsReferences) :
    ∃ report names, run settings model = .ok report ∧
      model.graph.withoutCircles.order = .ok names ∧
      ∀ dependent ∈ report.artifacts, dependent.kind = .store →
        ∃ store, model.storeOf? dependent.declaration = some store ∧
          dependent = store.artifact settings.storeOptions ∧
          ∀ name ∈ store.constants, report.Emits .store name →
            model.graph.LeadsTo dependent.declaration name ∧
            (report.StandsBefore .store name dependent.declaration ↔
              names.idxOf name < names.idxOf dependent.declaration) ∧
            (model.graph.withoutCircles.LeadsTo dependent.declaration name →
              report.StandsBefore .store name dependent.declaration) ∧
            (¬ model.graph.withoutCircles.LeadsTo dependent.declaration name →
              ∃ other : Model, other.Rearranges model ∧
                ∃ otherReport, run settings other = .ok otherReport ∧
                  (∃ same, other.storeOf? dependent.declaration = some same ∧
                    same.defaults = store.defaults ∧
                    same.artifact settings.storeOptions ∈ otherReport.artifacts) ∧
                  otherReport.Emits .store name ∧
                  ¬ otherReport.StandsBefore .store name dependent.declaration) := by
  obtain ⟨report, ran⟩ := exists_report settings model
  obtain ⟨names, _, sorted, _⟩ := model.exists_ordered
  refine ⟨report, names, ran, sorted, ?_⟩
  intro dependent member isStore
  obtain ⟨wanted, store, made, equal⟩ := (mem_store_artifacts ran isStore).mp member
  refine ⟨store, made, equal, ?_⟩
  intro name mentions emits
  have emitsDependent : report.Emits .store dependent.declaration :=
    ⟨dependent, member, isStore, rfl⟩
  refine ⟨Model.leadsTo_of_mem_constants listed made mentions,
    standsBefore_iff_idxOf_lt ran sorted emits emitsDependent,
    standsBefore_of_leadsTo ran emits emitsDependent, ?_⟩
  intro apart
  obtain ⟨declaration, found, _⟩ := Model.storeOf?_eq_some_iff.mp made
  obtain ⟨other, rearranged, reversed⟩ :=
    exists_rearrangement_not_standsBefore .store found apart
  -- In the other order both stores are there again, with the same initial states.
  obtain ⟨otherReport, ranOther⟩ := exists_report settings other
  obtain ⟨same, madeToo, defaults⟩ := rearranged.storeOf? made
  have emitsOther := emits_store_of_rearranges rearranged ran ranOther emits
  have emitsDependentOther := emits_store_of_rearranges rearranged ran ranOther emitsDependent
  have sameMember := store_artifact_mem ranOther wanted madeToo
  exact ⟨other, rearranged, otherReport, ranOther, ⟨same, madeToo, defaults, sameMember⟩,
    emitsOther, reversed otherReport ranOther emitsOther emitsDependentOther⟩

/-- An order of a line, which is not exported, with an item. -/
def lineModel : Model where
  declarations :=
    [⟨"Order", .object [⟨"line", .reference "Line", false⟩] none, ["Line"], true⟩,
      ⟨"Line", .object [⟨"item", .reference "Item", false⟩] none, ["Item"], false⟩,
      ⟨"Item", .object [⟨"title", .primitive "string", false⟩] none, [], true⟩]
  errors := []

theorem item_store_stands_before_order :
    lineModel.ListsReferences ∧
      ∃ report, run Settings.standard lineModel = .ok report ∧
        report.Emits .store "Order" ∧ report.Emits .store "Item" ∧
        report.StandsBefore .store "Item" "Order" := by
  have listed : lineModel.ListsReferences := by decide
  obtain ⟨report, names, ran, _, conditions⟩ :=
    mentioned_store_stands_before_iff Settings.standard listed
  obtain ⟨order, foundOrder, storedOrder, distinctOrder, mentions⟩ :
      ∃ order, lineModel.arena.get? "Order" = some order ∧ order.hasStore = true ∧
        order.members.Nodup ∧
        "Item" ∈ (Store.ofFields "Order" lineModel.arena order.fields).constants :=
    ⟨_, rfl, rfl, by decide +kernel, by decide +kernel⟩
  obtain ⟨item, foundItem, storedItem, distinctItem⟩ :
      ∃ item, lineModel.arena.get? "Item" = some item ∧ item.hasStore = true ∧
        item.members.Nodup :=
    ⟨_, rfl, rfl, by decide +kernel⟩
  have madeOrder := Model.storeOf?_eq_some_iff.mpr
    ⟨order, foundOrder, storedOrder, distinctOrder, rfl⟩
  have madeItem := Model.storeOf?_eq_some_iff.mpr
    ⟨item, foundItem, storedItem, distinctItem, rfl⟩
  have emitsOrder := (emits_store_iff ran).mpr ⟨rfl, _, madeOrder⟩
  have emitsItem := (emits_store_iff ran).mpr ⟨rfl, _, madeItem⟩
  have toLine : lineModel.graph.withoutCircles.DependsOn "Order" "Line" := by decide +kernel
  have toItem : lineModel.graph.withoutCircles.DependsOn "Line" "Item" := by decide +kernel
  refine ⟨listed, report, ran, emitsOrder, emitsItem, ?_⟩
  obtain ⟨dependent, member, isStore, named⟩ := emitsOrder
  obtain ⟨store, made, _, ordered⟩ := conditions dependent member isStore
  rw [named] at made ordered
  obtain rfl := Option.some.inj (madeOrder.symm.trans made)
  obtain ⟨_, _, follows, _⟩ := ordered "Item" mentions emitsItem
  exact follows (TransGen.tail (TransGen.single toLine) toItem)

/-- A category with a cover, each with an optional part of its own kind. -/
def categoryModel : Model where
  declarations :=
    [⟨"Category", .object [⟨"parent", .reference "Category", true⟩,
        ⟨"cover", .reference "Image", false⟩] none, ["Category", "Image"], true⟩,
      ⟨"Image", .object [⟨"thumbnail", .reference "Image", true⟩] none, ["Image"], true⟩]
  errors := []

/-- The store of the category mentions the constant of that of the image, which stands after it. -/
theorem image_store_not_before_category :
    categoryModel.ListsReferences ∧
      ∃ report, run { Settings.standard with targets := [.store] } categoryModel = .ok report ∧
        (∃ store : Store, store.name = "Category" ∧
          store.artifact StoreOptions.standard ∈ report.artifacts ∧
          "Image" ∈ store.constants) ∧
        report.Emits .store "Image" ∧ ¬ report.StandsBefore .store "Image" "Category" := by
  have listed : categoryModel.ListsReferences := by decide
  obtain ⟨report, ran⟩ := exists_report { Settings.standard with targets := [.store] } categoryModel
  obtain ⟨category, foundCategory, storedCategory, distinctCategory, mentions⟩ :
      ∃ category, categoryModel.arena.get? "Category" = some category ∧
        category.hasStore = true ∧ category.members.Nodup ∧
        "Image" ∈ (Store.ofFields "Category" categoryModel.arena category.fields).constants :=
    ⟨_, rfl, rfl, by decide +kernel, by decide +kernel⟩
  obtain ⟨image, foundImage, storedImage, distinctImage⟩ :
      ∃ image, categoryModel.arena.get? "Image" = some image ∧ image.hasStore = true ∧
        image.members.Nodup :=
    ⟨_, rfl, rfl, by decide +kernel⟩
  have madeCategory := Model.storeOf?_eq_some_iff.mpr
    ⟨category, foundCategory, storedCategory, distinctCategory, rfl⟩
  have madeImage := Model.storeOf?_eq_some_iff.mpr
    ⟨image, foundImage, storedImage, distinctImage, rfl⟩
  have emitsCategory := (emits_store_iff ran).mpr ⟨rfl, _, madeCategory⟩
  have emitsImage := (emits_store_iff ran).mpr ⟨rfl, _, madeImage⟩
  have ofItself : categoryModel.graph.LeadsTo "Category" "Category" :=
    TransGen.single (by decide)
  have imageOfItself : categoryModel.graph.LeadsTo "Image" "Image" := TransGen.single (by decide)
  have apart : ¬ categoryModel.graph.withoutCircles.LeadsTo "Category" "Image" := by
    intro path
    obtain ⟨start, step, _⟩ := TransGen.head'_iff.mp path
    obtain ⟨edge, kept⟩ := Graph.dependsOn_withoutCircles.mp step
    have named : start ∈ ["Category", "Image"] := edge
    rcases List.mem_cons.mp named with rfl | other
    · exact kept ⟨ofItself, ofItself⟩
    · obtain rfl := List.mem_singleton.mp other
      exact kept ⟨ofItself, imageOfItself⟩
  have member := store_artifact_mem ran rfl madeCategory
  refine ⟨listed, report, ran, ⟨_, rfl, member, mentions⟩, emitsImage, ?_⟩
  exact not_standsBefore_of_keys ran emitsImage emitsCategory rfl apart

/-! ## Emission of what is mentioned -/

/-- Every model has a report. A declared name whose constant a store of it mentions has its store
there unless the members of that store clash or the name is inlined into itself. -/
theorem mentioned_store_emitted_iff (settings : Settings) (model : Model) :
    ∃ report, run settings model = .ok report ∧
      ∀ dependent ∈ report.artifacts, dependent.kind = .store →
        ∃ store, model.storeOf? dependent.declaration = some store ∧
          dependent = store.artifact settings.storeOptions ∧
          ∀ name ∈ store.constants, ∀ target, model.arena.get? name = some target →
            (report.Emits .store name ↔
              ¬ ((target.hasStore = true ∧ ¬ target.members.Nodup) ∨
                TransGen (Inlines model.arena) name name)) := by
  obtain ⟨report, ran⟩ := exists_report settings model
  refine ⟨report, ran, ?_⟩
  intro dependent member isStore
  obtain ⟨wanted, store, made, equal⟩ := (mem_store_artifacts ran isStore).mp member
  refine ⟨store, made, equal, ?_⟩
  intro name mentions target found
  obtain ⟨_, ending⟩ := Model.path_of_mem_constants made mentions
  rw [emits_store_iff ran]
  constructor
  · intro makes
    obtain ⟨_, mentioned, madeToo⟩ := makes
    obtain ⟨same, foundToo, stored, distinct, _⟩ := Model.storeOf?_eq_some_iff.mp madeToo
    obtain rfl : same = target := Option.some.inj (foundToo.symm.trans found)
    intro fails
    rcases fails with ⟨_, clash⟩ | circle
    · exact clash distinct
    -- Only a declaration without a store is inlined.
    · obtain ⟨_, ⟨inlined, foundInlined, storeless, _⟩, _⟩ := TransGen.head'_iff.mp circle
      obtain rfl : inlined = same := Option.some.inj (foundInlined.symm.trans found)
      rw [stored] at storeless
      cases storeless
  · intro sound
    have stored : target.hasStore = true := by
      cases stored : target.hasStore with
      | true => rfl
      | false => exact absurd (Or.inr (ending target found stored)) sound
    have distinct : target.members.Nodup := by
      by_contra clash
      exact sound (Or.inl ⟨stored, clash⟩)
    exact ⟨wanted, _, Model.storeOf?_eq_some_iff.mpr ⟨target, found, stored, distinct, rfl⟩⟩

/-- A page with notes, whose store would have two members named `appendItems`. -/
def pageModel : Model where
  declarations :=
    [⟨"Page", .object [⟨"notes", .reference "Notes", false⟩] none, ["Notes"], true⟩,
      ⟨"Notes", .object [⟨"items", .array (some (.primitive "string")), false⟩,
        ⟨"appendItems", .primitive "string", false⟩] none, [], true⟩]
  errors := []

/-- The store of the page mentions the constant of that of the notes, which there is not. -/
theorem notes_store_missing :
    ∃ report, run { Settings.standard with targets := [.store] } pageModel = .ok report ∧
      (∃ store : Store, store.name = "Page" ∧
        store.artifact StoreOptions.standard ∈ report.artifacts ∧ "Notes" ∈ store.constants) ∧
      (∃ notes, pageModel.arena.get? "Notes" = some notes) ∧
      ¬ report.Emits .store "Notes" := by
  obtain ⟨report, ran⟩ := exists_report { Settings.standard with targets := [.store] } pageModel
  obtain ⟨page, found, stored, distinct, mentions⟩ :
      ∃ page, pageModel.arena.get? "Page" = some page ∧ page.hasStore = true ∧
        page.members.Nodup ∧
        "Notes" ∈ (Store.ofFields "Page" pageModel.arena page.fields).constants :=
    ⟨_, rfl, rfl, by decide +kernel, by decide +kernel⟩
  have made := Model.storeOf?_eq_some_iff.mpr ⟨page, found, stored, distinct, rfl⟩
  have member := store_artifact_mem ran rfl made
  refine ⟨report, ran, ⟨_, rfl, member, mentions⟩, ⟨_, rfl⟩, ?_⟩
  intro emits
  obtain ⟨notes, foundNotes, clash⟩ :
      ∃ notes, pageModel.arena.get? "Notes" = some notes ∧ ¬ notes.members.Nodup :=
    ⟨_, rfl, by decide +kernel⟩
  obtain ⟨_, store, madeNotes⟩ := (emits_store_iff ran).mp emits
  obtain ⟨same, foundSame, _, distinctNotes, _⟩ := Model.storeOf?_eq_some_iff.mp madeNotes
  obtain rfl : same = notes := Option.some.inj (foundSame.symm.trans foundNotes)
  exact clash distinctNotes

end Generation

end TypeScaffold
