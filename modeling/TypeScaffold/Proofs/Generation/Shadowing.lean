import TypeScaffold.Proofs.Generation.Accounting
import TypeScaffold.Proofs.Model.Needed

/-!
# Shadowed declarations in runs

A shadowed declaration adds nothing to the graph, to the order or to the declarations by name, and
nothing is generated for it. If it is exported, its dependencies count as needed all the same. So a
run makes the same report without the shadowed declarations exactly if everything that they need is
needed by declarations that count, too.
-/

namespace TypeScaffold

/-- No declaration that is not exported is needed by shadowed declarations alone. -/
def Model.NeedsNoShadowed (model : Model) : Prop :=
  ∀ hidden, model.ListsLast hidden → hidden.exported = false →
    ∀ declaration ∈ model.declarations, declaration.Needs model.graph hidden.name →
      ∃ counted, model.ListsLast counted ∧ counted.Needs model.graph hidden.name

/-! ## Contexts that differ in what is needed -/

theorem Context.ofModel_unshadowed (model : Model) :
    ofModel model.unshadowed =
      { ofModel model with needed := model.unshadowed.neededNames } := by
  rw [ofModel, ofModel, Model.graph_unshadowed, Model.arena_unshadowed]

namespace Generation

/-- What is needed matters for the schemas of declarations that are not exported only. -/
theorem generateKind_needed {settings : Settings} {context : Context} {declaration : Declaration}
    {needed : List String} {kind : ArtifactKind}
    (same : kind = .schema → declaration.exported = false →
      needed.contains declaration.name = context.needed.contains declaration.name) :
    generateKind settings { context with needed := needed } declaration kind =
      generateKind settings context declaration kind := by
  cases kind with
  | schema =>
      have built : Schema.build { context with needed := needed } declaration =
          Schema.build context declaration := by
        cases shown : declaration.exported with
        | true => simp only [Schema.build, shown]; rfl
        | false =>
            simp only [Schema.build, Context.isNeeded, same rfl shown]
            rfl
      rw [generateKind, generateKind, built]
  | store => rfl
  | form => rfl

/-- The call for the schema of a function reports one thing, which depends on whether the function
would have had a schema. -/
theorem diagnostics_schema_of_isFunction (settings : Settings) (context : Context)
    {declaration : Declaration} (function : declaration.type.isFunction = true)
    (hidden : declaration.exported = false) :
    (generateKind settings context declaration .schema).diagnostics =
      [if context.isNeeded declaration.name then .functionRoot declaration.name
        else .notNeeded declaration.name] := by
  have built : (generateKind settings context declaration .schema).diagnostics =
      (Schema.build context declaration).diagnostics := rfl
  rw [built, Schema.build]
  cases context.isNeeded declaration.name <;> simp [hidden, function, Outcome.skip]

/-- How a skipped function is worded tells whether it would have had a schema. -/
private theorem functionMessage_inj {name : String} {first second : Bool}
    (same : Diagnostic.message (if first then .functionRoot name else .notNeeded name) =
      Diagnostic.message (if second then .functionRoot name else .notNeeded name)) :
    first = second := by
  have differ : Diagnostic.message (.functionRoot name) ≠ Diagnostic.message (.notNeeded name) := by
    intro alike
    have reasons := (String.append_right_inj ("Skipping " ++ name ++ ": ")).mp alike
    exact absurd reasons (by decide)
  cases first <;> cases second
  · rfl
  · exact absurd same.symm differ
  · exact absurd same differ
  · rfl

/-! ## Runs without the shadowed declarations -/

/-- What a list of calls of equal lengths yields in turn determines what each of them yields. -/
private theorem eq_of_flatMap_eq {α β : Type} {first second : α → List β} :
    ∀ {entries : List α}, entries.flatMap first = entries.flatMap second →
      (∀ entry ∈ entries, (first entry).length = (second entry).length) →
      ∀ entry ∈ entries, first entry = second entry
  | head :: rest, equal, lengths, entry, member => by
      rw [List.flatMap_cons, List.flatMap_cons] at equal
      obtain ⟨atHead, inRest⟩ := List.append_inj equal (lengths head List.mem_cons_self)
      rcases List.mem_cons.mp member with rfl | later
      · exact atHead
      · exact eq_of_flatMap_eq inRest
          (fun other there => lengths other (List.mem_cons_of_mem head there)) entry later

section Run

variable {settings : Settings} {model : Model}

theorem isNeeded_unshadowed_iff {name : String} :
    (Context.ofModel model.unshadowed).isNeeded name = true ↔
      ∃ counted, model.ListsLast counted ∧ counted.Needs model.graph name := by
  rw [Context.isNeeded_ofModel, Model.graph_unshadowed]
  simp only [Model.mem_unshadowed, Declaration.Needs]

theorem isNeeded_unshadowed_eq_iff {name : String} :
    (Context.ofModel model.unshadowed).isNeeded name = (Context.ofModel model).isNeeded name ↔
      ∀ declaration ∈ model.declarations, declaration.Needs model.graph name →
        ∃ counted, model.ListsLast counted ∧ counted.Needs model.graph name := by
  rw [Bool.eq_iff_iff, isNeeded_unshadowed_iff, Context.isNeeded_ofModel]
  constructor
  · intro same declaration listed needs
    exact same.mpr ⟨declaration, listed, needs⟩
  · intro counts
    constructor
    · rintro ⟨counted, last, needs⟩
      exact ⟨counted, last.mem, needs⟩
    · rintro ⟨declaration, listed, needs⟩
      exact counts declaration listed needs

theorem generateKind_unshadowed {declaration : Declaration} {kind : ArtifactKind}
    (same : kind = .schema → declaration.exported = false →
      (Context.ofModel model.unshadowed).isNeeded declaration.name =
        (Context.ofModel model).isNeeded declaration.name) :
    generateKind settings (Context.ofModel model.unshadowed) declaration kind =
      generateKind settings (Context.ofModel model) declaration kind := by
  rw [Context.ofModel_unshadowed]
  exact generateKind_needed same

/-- What is needed changes no call if it stays for the declarations that are not exported. -/
theorem run_unshadowed_of_isNeeded
    (same : settings.wants .schema = true → ∀ hidden, model.ListsLast hidden →
      hidden.exported = false →
      (Context.ofModel model.unshadowed).isNeeded hidden.name =
        (Context.ofModel model).isNeeded hidden.name) :
    run settings model.unshadowed = run settings model := by
  obtain ⟨_, declarations, _, ordered, _, counted⟩ := model.exists_ordered
  have generated : declarations.map (generate settings (Context.ofModel model.unshadowed)) =
      declarations.map (generate settings (Context.ofModel model)) := by
    apply List.map_congr_left
    intro declaration member
    have last := (Model.get?_arena_eq_some_iff.mp ((counted declaration).mp member)).2
    rw [generate, generate]
    congr 1
    apply List.map_congr_left
    intro kind wanted
    apply generateKind_unshadowed
    rintro rfl hidden
    exact same (List.mem_filter.mp wanted).2 declaration last hidden
  have errors : model.unshadowed.errors = model.errors := rfl
  rw [run, run, Model.ordered_unshadowed, ordered, errors]
  simp only [Except.map, generated]

/-- If the reports are the same, what is needed may differ for functions only. -/
theorem isNeeded_unshadowed_or_isFunction {report : Report} {hidden : Declaration}
    (ran : run settings model = .ok report) (ranWithout : run settings model.unshadowed = .ok report)
    (wanted : settings.wants .schema = true)
    (found : model.arena.get? hidden.name = some hidden) (notExported : hidden.exported = false) :
    (Context.ofModel model.unshadowed).isNeeded hidden.name =
        (Context.ofModel model).isNeeded hidden.name ∨
      hidden.type.isFunction = true := by
  have foundWithout : model.unshadowed.arena.get? hidden.name = some hidden := by
    rwa [Model.arena_unshadowed]
  have emits := emits_schema_of_declared_iff ran wanted found
  rw [emits_schema_of_declared_iff ranWithout wanted foundWithout] at emits
  cases function : hidden.type.isFunction with
  | true => exact Or.inr rfl
  | false =>
      simp only [notExported, function, Bool.false_eq_true, false_or, and_true] at emits
      exact Or.inl (Bool.eq_iff_iff.mpr emits)

/-- If the reports are the same, no call reports more or less. -/
theorem length_diagnostics_unshadowed {report : Report} {declaration : Declaration}
    (ran : run settings model = .ok report) (ranWithout : run settings model.unshadowed = .ok report)
    (wanted : settings.wants .schema = true)
    (found : model.arena.get? declaration.name = some declaration) (kind : ArtifactKind) :
    (generateKind settings (Context.ofModel model.unshadowed) declaration kind).diagnostics.length =
      (generateKind settings (Context.ofModel model) declaration kind).diagnostics.length := by
  by_cases same : kind = .schema → declaration.exported = false →
      (Context.ofModel model.unshadowed).isNeeded declaration.name =
        (Context.ofModel model).isNeeded declaration.name
  · rw [generateKind_unshadowed same]
  · push Not at same
    obtain ⟨rfl, notExported, differs⟩ := same
    have function := (isNeeded_unshadowed_or_isFunction ran ranWithout wanted found
      notExported).resolve_left differs
    rw [diagnostics_schema_of_isFunction settings _ function notExported,
      diagnostics_schema_of_isFunction settings _ function notExported]
    rfl

/-- If the reports are the same, so is what is needed of the declarations that are not exported. -/
theorem isNeeded_of_run_unshadowed (same : run settings model.unshadowed = run settings model)
    (wanted : settings.wants .schema = true) {hidden : Declaration}
    (last : model.ListsLast hidden) (notExported : hidden.exported = false) :
    (Context.ofModel model.unshadowed).isNeeded hidden.name =
      (Context.ofModel model).isNeeded hidden.name := by
  obtain ⟨report, ran⟩ := exists_report settings model
  have ranWithout : run settings model.unshadowed = .ok report := same.trans ran
  obtain ⟨_, declarations, _, ordered, _, counted⟩ := model.exists_ordered
  have found := Model.get?_arena_eq_some_iff.mpr ⟨rfl, last⟩
  have orderedWithout : model.unshadowed.ordered = .ok declarations := by
    rw [Model.ordered_unshadowed, ordered]
  -- The warnings are the same as a whole, so those of each call are.
  have warnings := (warnings_of_run ranWithout orderedWithout).symm.trans
    (warnings_of_run ran ordered)
  have errors : model.unshadowed.errors = model.errors := rfl
  simp only [Diagnostic.messages, errors, List.map_append, List.map_flatMap] at warnings
  have lengths {declaration : Declaration} (member : declaration ∈ declarations)
      (kind : ArtifactKind) :=
    length_diagnostics_unshadowed ran ranWithout wanted ((counted declaration).mp member) kind
  have ofDeclaration := eq_of_flatMap_eq (List.append_cancel_left warnings) (by
    intro declaration member
    simp only [List.length_flatMap, List.length_map, lengths member])
    hidden ((counted hidden).mpr found)
  have ofSchema := eq_of_flatMap_eq ofDeclaration (by
    intro kind _
    simp only [List.length_map, lengths ((counted hidden).mpr found)])
    .schema (List.mem_filter.mpr ⟨by decide, wanted⟩)
  rcases isNeeded_unshadowed_or_isFunction ran ranWithout wanted found notExported with
    alike | function
  · exact alike
  · rw [diagnostics_schema_of_isFunction settings _ function notExported,
      diagnostics_schema_of_isFunction settings _ function notExported] at ofSchema
    exact functionMessage_inj (List.singleton_inj.mp ofSchema)

/-- Leaving out the shadowed declarations changes neither the declarations by name nor the graph nor
the order. It changes no report exactly if no declaration is needed by them alone, and does not change
what a name finds exactly if the first declaration of the name is also its last. -/
theorem shadowed_without_effect_iff (settings : Settings) (model : Model) :
    model.unshadowed.arena = model.arena ∧ model.unshadowed.graph = model.graph ∧
      model.unshadowed.ordered = model.ordered ∧
      (∃ report, run settings model = .ok report ∧
        (run settings model.unshadowed = .ok report ↔
          (settings.wants .schema = true → model.NeedsNoShadowed))) ∧
      ∀ name, (∀ declaration, model.unshadowed.find name = .ok declaration ↔
          model.find name = .ok declaration) ↔
        ∀ declaration, declaration.name = name → model.ListsFirst declaration →
          model.ListsLast declaration := by
  obtain ⟨report, ran⟩ := exists_report settings model
  refine ⟨model.arena_unshadowed, model.graph_unshadowed, model.ordered_unshadowed,
    ⟨report, ran, ?_⟩, fun name => Model.finds_alike_unshadowed_iff⟩
  rw [← ran]
  constructor
  · intro same wanted hidden last notExported
    exact isNeeded_unshadowed_eq_iff.mp (isNeeded_of_run_unshadowed same wanted last notExported)
  · intro needed
    apply run_unshadowed_of_isNeeded
    intro wanted hidden last notExported
    exact isNeeded_unshadowed_eq_iff.mpr (needed wanted hidden last notExported)

end Run

/-- The owner of an account, which is not exported. -/
def accountOwner : Declaration :=
  ⟨"Owner", .object [⟨"name", .primitive "string", false⟩] none, [], false⟩

/-- An account that is declared twice, with an owner that the first declaration depends on. -/
def accountModel (ofLast : List String) : Model where
  declarations :=
    [⟨"Account", .object [⟨"owner", .reference "Owner", false⟩] none, ["Owner"], true⟩,
      accountOwner,
      ⟨"Account", .object [⟨"balance", .primitive "number", false⟩] none, ofLast, true⟩]
  errors := []

theorem declarations_unshadowed_accountModel (ofLast : List String) :
    (accountModel ofLast).unshadowed.declarations =
      [⟨"Account", .object [⟨"balance", .primitive "number", false⟩] none, ofLast, true⟩,
        accountOwner] :=
  rfl

/-- The owner is needed by the last declaration, too. -/
theorem account_runs_alike_unshadowed :
    Settings.standard.wants .schema = true ∧ (accountModel ["Owner"]).NeedsNoShadowed ∧
      ∃ report, run Settings.standard (accountModel ["Owner"]) = .ok report ∧
        run Settings.standard (accountModel ["Owner"]).unshadowed = .ok report := by
  have needed : (accountModel ["Owner"]).NeedsNoShadowed := by
    intro hidden last notExported _ _ _
    have listed := Model.mem_unshadowed.mpr last
    rw [declarations_unshadowed_accountModel, List.mem_pair] at listed
    rcases listed with rfl | rfl
    · cases notExported
    · refine ⟨_, Model.mem_unshadowed.mp List.mem_cons_self, rfl, "Owner", ?_, .refl⟩
      exact List.mem_singleton.mpr rfl
  obtain ⟨_, _, _, ⟨report, ran, alike⟩, _⟩ :=
    shadowed_without_effect_iff Settings.standard (accountModel ["Owner"])
  exact ⟨rfl, needed, report, ran, alike.mpr (fun _ => needed)⟩

/-- The owner has a schema only because of the first declaration of the account, which is also the one
that its name finds. -/
theorem shadowed_account_needs_owner :
    ∃ report reduced, run Settings.standard (accountModel []) = .ok report ∧
      run Settings.standard (accountModel []).unshadowed = .ok reduced ∧
      report.Emits .schema "Owner" ∧ ¬ reduced.Emits .schema "Owner" ∧
      ∃ first last, (accountModel []).find "Account" = .ok first ∧
        (accountModel []).unshadowed.find "Account" = .ok last ∧
        first.dependencies = ["Owner"] ∧ last.dependencies = [] := by
  obtain ⟨report, ran⟩ := exists_report Settings.standard (accountModel [])
  obtain ⟨reduced, ranWithout⟩ := exists_report Settings.standard (accountModel []).unshadowed
  refine ⟨report, reduced, ran, ranWithout, ?_, ?_, _, _, rfl, rfl, rfl, rfl⟩
  · have needed : (Context.ofModel (accountModel [])).isNeeded "Owner" = true :=
      Context.isNeeded_ofModel.mpr
        ⟨_, List.mem_cons_self, rfl, "Owner", List.mem_singleton.mpr rfl, .refl⟩
    have found : (accountModel []).arena.get? accountOwner.name = some accountOwner := rfl
    exact (emits_schema_of_declared_iff ran rfl found).mpr ⟨Or.inr needed, rfl⟩
  · intro emits
    have found : (accountModel []).unshadowed.arena.get? accountOwner.name = some accountOwner :=
      rfl
    obtain ⟨exported | needed, _⟩ := (emits_schema_of_declared_iff ranWithout rfl found).mp emits
    · cases exported
    · obtain ⟨counted, last, exported, start, depends, _⟩ := isNeeded_unshadowed_iff.mp needed
      have listed := Model.mem_unshadowed.mpr last
      rw [declarations_unshadowed_accountModel, List.mem_pair] at listed
      rcases listed with rfl | rfl
      · cases depends
      · cases exported

end Generation

end TypeScaffold
