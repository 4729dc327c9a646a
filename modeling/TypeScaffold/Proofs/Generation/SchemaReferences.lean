import TypeScaffold.Proofs.Generation.Artifacts
import TypeScaffold.Proofs.Validator.References

/-!
# References between the schemas of a report

A schema that is not lazy evaluates its references when the module is loaded, so the schemas that it
refers to have to stand before it. They do, whatever circles there are elsewhere. Each of them is in
the report, unless the declaration that it was to be made for is a function.
-/

namespace TypeScaffold

open Relation

theorem Context.isRecursive_ofModel {model : Model} {name : String} :
    (Context.ofModel model).isRecursive name = true ↔ model.graph.LeadsTo name name := by
  rw [isRecursive, ofModel, List.contains_iff_mem, Graph.mem_recursiveNames]

theorem Context.isNeeded_ofModel {model : Model} {name : String} :
    (Context.ofModel model).isNeeded name = true ↔
      ∃ declaration ∈ model.declarations, declaration.exported = true ∧
        ∃ start ∈ declaration.dependencies, model.graph.Reaches start name := by
  rw [isNeeded, ofModel, List.contains_iff_mem, Model.mem_neededNames]

namespace Model

/-- A name has a schema if its declaration is no function and is exported or needed. -/
theorem schemaOf?_eq_some_iff {model : Model} {name : String} {schema : Schema} :
    model.schemaOf? name = some schema ↔
      ∃ declaration, model.arena.get? name = some declaration ∧
        (declaration.exported = true ∨ (Context.ofModel model).isNeeded name = true) ∧
        declaration.type.isFunction = false ∧
        schema = ⟨name, (Context.ofModel model).isRecursive name,
          Validator.ofNode declaration.type⟩ := by
  rw [schemaOf?, Option.bind_eq_some_iff]
  constructor
  · intro makes
    obtain ⟨declaration, found, built⟩ := makes
    obtain ⟨eligible, valued, equal⟩ := Schema.result_build_eq_some_iff.mp built
    rw [(mem_of_get?_arena found).2] at eligible equal
    exact ⟨declaration, found, eligible, valued, equal⟩
  · intro makes
    obtain ⟨declaration, found, eligible, valued, equal⟩ := makes
    refine ⟨declaration, found, Schema.result_build_eq_some_iff.mpr ?_⟩
    rw [(mem_of_get?_arena found).2]
    exact ⟨eligible, valued, equal⟩

theorem isNeeded_of_dependsOn {model : Model} {name dependency : String}
    {declaration : Declaration} (found : model.arena.get? name = some declaration)
    (eligible : declaration.exported = true ∨ (Context.ofModel model).isNeeded name = true)
    (step : model.graph.DependsOn name dependency) :
    (Context.ofModel model).isNeeded dependency = true := by
  rw [Context.isNeeded_ofModel]
  rcases eligible with exported | needed
  · obtain ⟨same, foundSame, listed⟩ := dependsOn_iff.mp step
    cases found.symm.trans foundSame
    exact ⟨declaration, (mem_of_get?_arena found).1, exported, dependency, listed,
      ReflTransGen.refl⟩
  · obtain ⟨source, member, exported, start, startMember, path⟩ :=
      Context.isNeeded_ofModel.mp needed
    exact ⟨source, member, exported, start, startMember, path.tail step⟩

theorem dependsOn_of_mem_references {model : Model} (listed : model.ListsReferences)
    {name reference : String} {schema : Schema} (made : model.schemaOf? name = some schema)
    (refers : reference ∈ schema.body.references) : model.graph.DependsOn name reference := by
  obtain ⟨declaration, found, _, _, rfl⟩ := schemaOf?_eq_some_iff.mp made
  exact listed.dependsOn found (Validator.references_ofNode_subset declaration.type refers)

end Model

namespace Generation

/-! ## Definition before use -/

/-- Every model has a report, in which a schema that is not lazy stands after all schemas that it
refers to. -/
theorem eager_schema_follows_references (settings : Settings) {model : Model}
    (listed : model.ListsReferences) :
    ∃ report, run settings model = .ok report ∧
      ∀ dependent ∈ report.artifacts, dependent.kind = .schema →
        ∃ schema, model.schemaOf? dependent.declaration = some schema ∧
          dependent = schema.artifact ∧
          ((Context.ofModel model).isRecursive dependent.declaration = false →
            ∀ name ∈ schema.body.references, report.Emits .schema name →
              report.StandsBefore .schema name dependent.declaration) := by
  obtain ⟨report, ran⟩ := exists_report settings model
  refine ⟨report, ran, ?_⟩
  intro dependent member isSchema
  obtain ⟨_, schema, made, equal⟩ := (mem_schema_artifacts ran isSchema).mp member
  refine ⟨schema, made, equal, ?_⟩
  intro eager name refers emits
  have step := Model.dependsOn_of_mem_references listed made refers
  -- A name that no path leads back to keeps all its dependencies.
  have kept : model.graph.withoutCircles.DependsOn dependent.declaration name := by
    refine Graph.dependsOn_withoutCircles.mpr ⟨step, ?_⟩
    intro circles
    obtain ⟨circle, _⟩ := circles
    rw [Context.isRecursive_ofModel.mpr circle] at eager
    cases eager
  have emitsDependent : report.Emits .schema dependent.declaration :=
    ⟨dependent, member, isSchema, rfl⟩
  exact standsBefore_of_leadsTo ran emits emitsDependent (TransGen.single kept)

/-- An order among declarations with a circle, a second declaration of one name, one that is not
exported, and a name without a declaration. -/
def orderModel : Model where
  declarations :=
    [⟨"Order", .primitive "string", [], true⟩,
      ⟨"Tree", .object [⟨"children", .array (some (.reference "Tree")), false⟩] none, ["Tree"],
        true⟩,
      ⟨"Order", .object [⟨"tree", .reference "Tree", false⟩,
        ⟨"items", .array (some (.reference "Item")), false⟩] none, ["Tree", "Item"], true⟩,
      ⟨"Item", .object [⟨"price", .reference "Money", false⟩] none, ["Money"], false⟩]
  errors := []

theorem order_schema_follows_items :
    orderModel.ListsReferences ∧
      ∃ report, run Settings.standard orderModel = .ok report ∧
        report.Emits .schema "Order" ∧ report.Emits .schema "Item" ∧
        report.StandsBefore .schema "Item" "Order" := by
  have listed : orderModel.ListsReferences := by decide
  obtain ⟨report, ran, follows⟩ := eager_schema_follows_references Settings.standard listed
  obtain ⟨order, foundOrder, exported, valuedOrder, refers⟩ :
      ∃ order, orderModel.arena.get? "Order" = some order ∧ order.exported = true ∧
        order.type.isFunction = false ∧ "Item" ∈ (Validator.ofNode order.type).references :=
    ⟨_, rfl, rfl, rfl, by decide⟩
  obtain ⟨item, foundItem, valuedItem⟩ :
      ∃ item, orderModel.arena.get? "Item" = some item ∧ item.type.isFunction = false :=
    ⟨_, rfl, rfl⟩
  have madeOrder := Model.schemaOf?_eq_some_iff.mpr
    ⟨order, foundOrder, Or.inl exported, valuedOrder, rfl⟩
  have depends := Model.dependsOn_of_mem_references listed madeOrder refers
  have needed := Model.isNeeded_of_dependsOn foundOrder (Or.inl exported) depends
  have madeItem := Model.schemaOf?_eq_some_iff.mpr
    ⟨item, foundItem, Or.inr needed, valuedItem, rfl⟩
  have emitsOrder := (emits_schema_iff ran).mpr ⟨rfl, _, madeOrder⟩
  have emitsItem := (emits_schema_iff ran).mpr ⟨rfl, _, madeItem⟩
  refine ⟨listed, report, ran, emitsOrder, emitsItem, ?_⟩
  have eager : (Context.ofModel orderModel).isRecursive "Order" = false := by decide +kernel
  obtain ⟨dependent, member, isSchema, named⟩ := emitsOrder
  obtain ⟨schema, made, _, inOrder⟩ := follows dependent member isSchema
  rw [named] at made inOrder
  obtain rfl := Option.some.inj (madeOrder.symm.trans made)
  exact inOrder eager "Item" refers emitsItem

/-! ## Emission of what is referred to -/

/-- Every model has a report, and of the declared names that a schema of it refers to exactly those
of functions have no schema there. -/
theorem referenced_schema_emitted_iff (settings : Settings) {model : Model}
    (listed : model.ListsReferences) :
    ∃ report, run settings model = .ok report ∧
      ∀ dependent ∈ report.artifacts, dependent.kind = .schema →
        ∃ schema, model.schemaOf? dependent.declaration = some schema ∧
          dependent = schema.artifact ∧
          ∀ name ∈ schema.body.references, ∀ target, model.arena.get? name = some target →
            (report.Emits .schema name ↔ target.type.isFunction = false) := by
  obtain ⟨report, ran⟩ := exists_report settings model
  refine ⟨report, ran, ?_⟩
  intro dependent member isSchema
  obtain ⟨wanted, schema, made, equal⟩ := (mem_schema_artifacts ran isSchema).mp member
  refine ⟨schema, made, equal, ?_⟩
  intro name refers target found
  rw [emits_schema_iff ran]
  constructor
  · intro makes
    obtain ⟨_, other, otherMade⟩ := makes
    obtain ⟨declaration, foundToo, _, valued, _⟩ := Model.schemaOf?_eq_some_iff.mp otherMade
    cases found.symm.trans foundToo
    exact valued
  · intro valued
    obtain ⟨declaration, foundDependent, eligible, _, _⟩ := Model.schemaOf?_eq_some_iff.mp made
    have needed := Model.isNeeded_of_dependsOn foundDependent eligible
      (Model.dependsOn_of_mem_references listed made refers)
    have madeToo := Model.schemaOf?_eq_some_iff.mpr ⟨target, found, Or.inr needed, valued, rfl⟩
    exact ⟨wanted, _, madeToo⟩

/-- A button with a label, which is not exported, and a handler, which is a function. -/
def buttonModel : Model where
  declarations :=
    [⟨"Button", .object [⟨"label", .reference "Label", false⟩,
        ⟨"onClick", .reference "Handler", false⟩] none, ["Handler", "Label"], true⟩,
      ⟨"Label", .primitive "string", [], false⟩,
      ⟨"Handler", .function, [], true⟩]
  errors := []

theorem label_schema_emitted :
    buttonModel.ListsReferences ∧
      ∃ report, run Settings.standard buttonModel = .ok report ∧
        report.Emits .schema "Button" ∧ report.Emits .schema "Label" := by
  have listed : buttonModel.ListsReferences := by decide
  obtain ⟨report, ran, emitted⟩ := referenced_schema_emitted_iff Settings.standard listed
  obtain ⟨button, foundButton, exported, valued, refers⟩ :
      ∃ button, buttonModel.arena.get? "Button" = some button ∧ button.exported = true ∧
        button.type.isFunction = false ∧ "Label" ∈ (Validator.ofNode button.type).references :=
    ⟨_, rfl, rfl, rfl, by decide⟩
  have madeButton := Model.schemaOf?_eq_some_iff.mpr
    ⟨button, foundButton, Or.inl exported, valued, rfl⟩
  have emitsButton := (emits_schema_iff ran).mpr ⟨rfl, _, madeButton⟩
  refine ⟨listed, report, ran, emitsButton, ?_⟩
  obtain ⟨dependent, member, isSchema, named⟩ := emitsButton
  obtain ⟨schema, made, _, condition⟩ := emitted dependent member isSchema
  rw [named] at made
  obtain rfl := Option.some.inj (madeButton.symm.trans made)
  exact (condition "Label" refers _ rfl).mpr rfl

/-- The schema of the button refers to one of the handler, which is declared but has no schema. -/
theorem handler_schema_missing :
    buttonModel.ListsReferences ∧
      ∃ report, run { Settings.standard with targets := [.schema] } buttonModel = .ok report ∧
        (∃ schema : Schema, schema.artifact ∈ report.artifacts ∧
          "Handler" ∈ schema.body.references) ∧
        (∃ handler, buttonModel.arena.get? "Handler" = some handler) ∧
        ¬ report.Emits .schema "Handler" := by
  have listed : buttonModel.ListsReferences := by decide
  obtain ⟨report, ran⟩ := exists_report { Settings.standard with targets := [.schema] } buttonModel
  obtain ⟨button, foundButton, exported, valued, refers⟩ :
      ∃ button, buttonModel.arena.get? "Button" = some button ∧ button.exported = true ∧
        button.type.isFunction = false ∧ "Handler" ∈ (Validator.ofNode button.type).references :=
    ⟨_, rfl, rfl, rfl, by decide⟩
  have madeButton := Model.schemaOf?_eq_some_iff.mpr
    ⟨button, foundButton, Or.inl exported, valued, rfl⟩
  have member := schema_artifact_mem ran rfl madeButton
  refine ⟨listed, report, ran, ⟨_, member, refers⟩, ⟨_, rfl⟩, ?_⟩
  intro emits
  obtain ⟨_, schema, made⟩ := (emits_schema_iff ran).mp emits
  obtain ⟨handler, found, _, valuedHandler, _⟩ := Model.schemaOf?_eq_some_iff.mp made
  obtain rfl := Option.some.inj found
  cases valuedHandler

end Generation

end TypeScaffold
