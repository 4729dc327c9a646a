import TypeScaffold.Proofs.Generation.Artifacts
import TypeScaffold.Proofs.Model.Listing
import TypeScaffold.Proofs.Store.Alike

/-!
# Reports do not depend on how dependencies are listed

No generator reads the dependencies of a declaration; they count for the recursive names, the needed
names and the order only, and these are sets or are made by way of sets. So two models that list the
dependencies of their declarations in different orders, or some of them several times, have the same
report.
-/

namespace TypeScaffold

theorem storesAlike_canonical (arena : Keyed Declaration) :
    StoresAlike (Keyed.mapEntries (fun _ => Declaration.canonical) arena) arena := by
  apply StoresAlike.of_mapEntries
  intro declaration
  exact ⟨rfl, rfl, fun _ => rfl⟩

/-! ## Forms -/

section Forms

variable (context : Context)

theorem Context.openProperties?_canonical :
    context.canonical.openProperties? = context.openProperties? := by
  funext node
  cases node with
  | reference name =>
      have recursive : context.canonical.isRecursive name = context.isRecursive name := rfl
      have found : context.canonical.arena.get? name =
          (context.arena.get? name).map Declaration.canonical :=
        Keyed.get?_mapEntries (fun _ => Declaration.canonical) name context.arena
      rw [openProperties?, openProperties?, recursive, found]
      cases context.arena.get? name <;> rfl
  | _ => rfl

theorem CardPart.ofProperty_canonical : ofProperty context.canonical = ofProperty context := by
  funext array property
  rw [ofProperty, ofProperty, context.openProperties?_canonical]

theorem ItemView.ofElement_canonical : ofElement context.canonical = ofElement context := by
  funext array element
  rw [ofElement, ofElement, context.openProperties?_canonical,
    CardPart.ofProperty_canonical context]

theorem FormField.ofProperty_canonical : ofProperty context.canonical = ofProperty context := by
  have value : ∀ element, Initial.ofField context.canonical.arena false element =
      Initial.ofField context.arena false element :=
    (storesAlike_canonical context.arena).ofField_eq false
  funext field
  rw [ofProperty, ofProperty, ItemView.ofElement_canonical context]
  simp only [value]

/-! ## Generators -/

variable (declaration : Declaration)

theorem Schema.build_canonical :
    build context.canonical declaration.canonical = build context declaration :=
  rfl

theorem Store.build_canonical :
    build context.canonical declaration.canonical = build context declaration := by
  rw [build, build]
  simp only [Declaration.canonical, Context.canonical,
    (storesAlike_canonical context.arena).ofFields_eq]

theorem Form.build_canonical :
    build context.canonical declaration.canonical = build context declaration := by
  have fields : ofFields context.canonical = ofFields context := by
    funext name fields
    rw [ofFields, ofFields, FormField.ofProperty_canonical context]
    rfl
  rw [build, build, fields]
  rfl

end Forms

/-! ## Runs -/

namespace Generation

theorem generate_canonical (settings : Settings) (context : Context) (declaration : Declaration) :
    generate settings context.canonical declaration.canonical =
      generate settings context declaration :=
  generate_congr settings rfl (Schema.build_canonical context declaration)
    (Store.build_canonical context declaration) (Form.build_canonical context declaration)

theorem run_canonical (settings : Settings) (model : Model) :
    run settings model.canonical = run settings model := by
  apply run_mapDeclarations Declaration.canonical (fun _ => rfl)
  · exact model.graph_canonical_relists.withoutCircles.order_eq
  · intro declaration
    change generate settings (Context.ofModel model.canonical) _ = _
    rw [Context.ofModel_canonical, generate_canonical]

/-- Models that differ in how dependencies are listed have the same report, and graphs that differ so
have the same order or the same circle. -/
theorem run_ignores_listing :
    (∀ settings (model other : Model), model.Relists other →
      ∃ report, run settings model = .ok report ∧ run settings other = .ok report) ∧
    ∀ graph other : Graph, graph.Relists other → graph.order = other.order := by
  constructor
  · intro settings model other relists
    obtain ⟨report, ran⟩ := exists_report settings model
    refine ⟨report, ran, ?_⟩
    calc
      run settings other
          = run settings other.canonical := (run_canonical settings other).symm
      _ = run settings model.canonical := by rw [relists.canonical_eq]
      _ = run settings model := run_canonical settings model
      _ = .ok report := ran
  · intro graph other relists
    exact relists.order_eq

/-- An order with its customer and its items, which know the order they belong to. -/
def shopModel (ofOrder : List String) : Model where
  declarations :=
    [⟨"Order", .object [⟨"customer", .reference "Customer", false⟩,
        ⟨"items", .array (some (.reference "Item")), false⟩] none, ofOrder, true⟩,
      ⟨"Item", .object [⟨"order", .reference "Order", true⟩] none, ["Order"], false⟩,
      ⟨"Customer", .object [⟨"name", .primitive "string", false⟩] none, [], false⟩]
  errors := []

theorem shop_run_ignores_listing :
    (shopModel ["Item", "Customer", "Item"]).Relists (shopModel ["Customer", "Item"]) ∧
      (∃ report, run Settings.standard (shopModel ["Item", "Customer", "Item"]) = .ok report ∧
        run Settings.standard (shopModel ["Customer", "Item"]) = .ok report) ∧
      (shopModel ["Item", "Customer", "Item"]).graph.Relists (shopModel ["Customer", "Item"]).graph ∧
      (shopModel ["Item", "Customer", "Item"]).graph.order =
        (shopModel ["Customer", "Item"]).graph.order := by
  have sameNames : ∀ name, name ∈ ["Item", "Customer", "Item"] ↔ name ∈ ["Customer", "Item"] := by
    grind
  have sameDeclaration : ∀ declaration : Declaration, declaration.Relists declaration :=
    fun _ => ⟨rfl, rfl, rfl, fun _ => Iff.rfl⟩
  have models : (shopModel ["Item", "Customer", "Item"]).Relists
      (shopModel ["Customer", "Item"]) :=
    ⟨.cons ⟨rfl, rfl, rfl, sameNames⟩
      (.cons (sameDeclaration _) (.cons (sameDeclaration _) .nil)), rfl⟩
  have graphs := models.graph
  exact ⟨models, run_ignores_listing.1 _ _ _ models, graphs, run_ignores_listing.2 _ _ graphs⟩

end Generation

end TypeScaffold
