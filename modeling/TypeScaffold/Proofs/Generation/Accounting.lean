import TypeScaffold.Proofs.Form.Build
import TypeScaffold.Proofs.Generation.SchemaReferences
import TypeScaffold.Proofs.Generation.StorageKeys
import TypeScaffold.Proofs.Model.Ordered

/-!
# Declarations that are made and declarations that are skipped

A run calls each wanted generator once for every declared name. The call makes one artifact and skips
nothing, or it makes none and says exactly once that it skips the declaration, after whatever it has
reported about parts of it. So nothing is lost silently, nothing is made twice, and nothing is
reported as skipped that is there.
-/

namespace TypeScaffold

/-- Whether the report says that a declaration gets no artifact of a kind, and not only that a part of
it is left out or is generated in a weaker form. -/
def Diagnostic.skipsDeclaration : Diagnostic → Bool
  | .notNeeded _ | .functionRoot _ | .notExported _ | .notObject _ | .repeatedMembers _ _
  | .shadowedLocals _ _ => true
  | .functionField _ | .jsonEditor _ | .gap _ | .sourceError _ => false

/-- The reports that say that a declaration is skipped. -/
def Diagnostic.skips (reports : List Diagnostic) : List Diagnostic :=
  reports.filter Diagnostic.skipsDeclaration

/-- How it is worded that a declaration is skipped. A form is skipped under the name of its component if
it is for a name of the component that the form would take from the store, and like everything else
under the name of the declaration if there is no such store. -/
inductive Diagnostic.SkipsAs (declaration : Declaration) : ArtifactKind → Diagnostic → Prop where
  | declaration {kind : ArtifactKind} {report : Diagnostic} (reason : String)
      (storeless : kind = .form → declaration.hasStore = true → ¬ declaration.members.Nodup)
      (worded : report.message = "Skipping " ++ declaration.name ++ ": " ++ reason) :
      SkipsAs declaration kind report
  | component {report : Diagnostic} (reason : String)
      (stored : declaration.hasStore = true) (distinct : declaration.members.Nodup)
      (clash : ∃ name ∈ declaration.selectors, name ∈ formLocals)
      (worded : report.message = "Skipping " ++ declaration.name ++ "Form: " ++ reason) :
      SkipsAs declaration .form report

theorem Diagnostic.SkipsAs.of_ne_form {declaration : Declaration} {kind : ArtifactKind}
    {report : Diagnostic} (other : kind ≠ .form) (reason : String)
    (worded : report.message = "Skipping " ++ declaration.name ++ ": " ++ reason) :
    report.SkipsAs declaration kind :=
  .declaration reason (fun isForm => absurd isForm other) worded

/-- One thing is made for the declaration and nothing is skipped, or nothing is made and it is
reported once that the declaration is skipped. -/
def Declaration.IsAccountedFor {α : Type} (declaration : Declaration) (kind : ArtifactKind)
    (made : List α) (reports : List Diagnostic) : Prop :=
  (∃ one, made = [one] ∧ Diagnostic.skips reports = []) ∨
    (made = [] ∧ ∃ skipped, Diagnostic.skips reports = [skipped] ∧
      skipped.SkipsAs declaration kind)

/-! ## Outcomes -/

namespace Declaration.IsAccountedFor

variable {α : Type} {declaration : Declaration} {kind : ArtifactKind}

theorem of_some {made : α} {reports : List Diagnostic} (parts : Diagnostic.skips reports = []) :
    declaration.IsAccountedFor kind (some made).toList reports :=
  Or.inl ⟨made, rfl, parts⟩

theorem of_skip {before : List Diagnostic} {reason : Diagnostic}
    (parts : Diagnostic.skips before = []) (skips : reason.skipsDeclaration = true)
    (worded : reason.SkipsAs declaration kind) :
    declaration.IsAccountedFor kind (none : Option α).toList (before ++ [reason]) := by
  refine Or.inr ⟨rfl, reason, ?_, worded⟩
  rw [Diagnostic.skips, List.filter_append, List.filter_cons_of_pos skips]
  exact congrArg (· ++ [reason]) parts

theorem map {β : Type} {made : List α} {reports : List Diagnostic}
    (accounted : declaration.IsAccountedFor kind made reports) (change : α → β) :
    declaration.IsAccountedFor kind (made.map change) reports := by
  rcases accounted with ⟨one, rfl, parts⟩ | ⟨rfl, skipped⟩
  · exact Or.inl ⟨change one, rfl, parts⟩
  · exact Or.inr ⟨rfl, skipped⟩

end Declaration.IsAccountedFor

/-! ## Reports about parts -/

namespace Diagnostic

theorem skips_eq_nil_iff {reports : List Diagnostic} :
    skips reports = [] ↔ ∀ report ∈ reports, report.skipsDeclaration = false := by
  simp only [skips, List.filter_eq_nil_iff, Bool.not_eq_true]

theorem skips_flatMap {α : Type} {parts : List α} {reports : α → List Diagnostic}
    (each : ∀ part ∈ parts, skips (reports part) = []) : skips (parts.flatMap reports) = [] := by
  rw [skips_eq_nil_iff]
  intro report member
  obtain ⟨part, there, inside⟩ := List.mem_flatMap.mp member
  exact skips_eq_nil_iff.mp (each part there) report inside

theorem skips_functionReports (owner : String) (properties : List Property) :
    skips (functionReports owner properties) = [] := by
  rw [skips_eq_nil_iff]
  intro report member
  obtain ⟨name, _, rfl⟩ := List.mem_map.mp member
  rfl

theorem skips_gaps (gaps : List Gap) : skips (gaps.map Diagnostic.gap) = [] := by
  rw [skips_eq_nil_iff]
  intro report member
  obtain ⟨gap, _, rfl⟩ := List.mem_map.mp member
  rfl

theorem skips_widget (owner : String) (widget : Widget) : skips (widget.diagnostics owner) = [] := by
  rw [Widget.diagnostics]
  split <;> rfl

theorem skips_nestedPart (owner array object : String) (part : NestedPart) :
    skips (part.diagnostics owner array object) = [] := by
  cases part with
  | function name => rfl
  | widget input => exact skips_widget owner input

theorem skips_cardPart (owner array : String) (part : CardPart) :
    skips (part.diagnostics owner array) = [] := by
  cases part with
  | function name => rfl
  | widget input => exact skips_widget owner input
  | object name label parts =>
      exact skips_flatMap (fun nested _ => skips_nestedPart owner array name nested)

theorem skips_itemView (owner array : String) (items : ItemView) :
    skips (items.diagnostics owner array) = [] := by
  cases items with
  | row widget => exact skips_widget owner widget
  | card parts => exact skips_flatMap (fun part _ => skips_cardPart owner array part)

theorem skips_form (form : Form) : skips form.diagnostics = [] := by
  apply skips_flatMap
  intro field _
  cases field with
  | widget input => exact skips_widget form.name input
  | array block => exact skips_itemView form.name block.name block.items

theorem message_shadowedLocals (name : String) (members : List String) :
    (Diagnostic.shadowedLocals name members).message =
      "Skipping " ++ name ++ "Form: " ++
        ("store member(s) clash with form locals: " ++ ", ".intercalate members) := by
  have words : "Form: " = "Form" ++ ": " := rfl
  have message : (Diagnostic.shadowedLocals name members).message =
      "Skipping " ++ (name ++ "Form") ++ ": " ++
        ("store member(s) clash with form locals: " ++ ", ".intercalate members) :=
    rfl
  rw [message, words]
  simp only [String.append_assoc]

end Diagnostic

/-! ## Generators -/

section Generators

variable (context : Context) (declaration : Declaration)

theorem Schema.accounts_build :
    declaration.IsAccountedFor .schema (build context declaration).result.toList
      (build context declaration).diagnostics := by
  rw [build]
  split
  · exact .of_skip rfl rfl (.of_ne_form (by decide) _ rfl)
  · split
    · exact .of_skip rfl rfl (.of_ne_form (by decide) _ rfl)
    · exact .of_some (Diagnostic.skips_gaps _)

theorem Store.accounts_build :
    declaration.IsAccountedFor .store (build context declaration).result.toList
      (build context declaration).diagnostics := by
  rw [build]
  split
  · exact .of_skip rfl rfl (.of_ne_form (by decide) _ rfl)
  · split
    · dsimp only
      split
      · exact .of_some (Diagnostic.skips_functionReports _ _)
      · exact .of_skip (Diagnostic.skips_functionReports _ _) rfl (.of_ne_form (by decide) _ rfl)
    · exact .of_skip rfl rfl (.of_ne_form (by decide) _ rfl)

theorem Form.build_of_hasStore {declaration : Declaration} (stored : declaration.hasStore = true) :
    build context declaration =
      let reports := functionReports declaration.name (declaration.type.properties?.getD [])
      match NameSet.repeated declaration.members with
      | [] =>
          match declaration.selectors.filter formLocals.contains with
          | [] =>
              let form := ofFields context declaration.name
                (declaration.fields.map FieldSource.resolved)
              ⟨some form, reports ++ form.diagnostics⟩
          | shadowed => .skip reports (.shadowedLocals declaration.name shadowed)
      | repeated => .skip reports (.repeatedMembers declaration.name repeated) := by
  obtain ⟨exported, properties, typeName, root⟩ := Declaration.hasStore_iff.mp stored
  rw [build, exported, Declaration.members, Declaration.selectors, Declaration.fields, root]
  rfl

theorem Form.accounts_build_of_hasStore {declaration : Declaration}
    (stored : declaration.hasStore = true) :
    declaration.IsAccountedFor .form (build context declaration).result.toList
      (build context declaration).diagnostics := by
  have fieldReports :=
    Diagnostic.skips_functionReports declaration.name (declaration.type.properties?.getD [])
  rw [build_of_hasStore context stored]
  dsimp only
  split
  · rename_i unrepeated
    have distinct := NameSet.repeated_eq_nil_iff.mp unrepeated
    split
    · apply Declaration.IsAccountedFor.of_some
      rw [Diagnostic.skips, List.filter_append]
      exact List.append_eq_nil_iff.mpr ⟨fieldReports, Diagnostic.skips_form _⟩
    · rename_i shadowed
      have clash : ∃ name ∈ declaration.selectors, name ∈ formLocals := by
        by_contra apart
        apply shadowed
        rw [List.filter_eq_nil_iff]
        intro name member there
        exact apart ⟨name, member, List.contains_iff_mem.mp there⟩
      exact .of_skip fieldReports rfl
        (.component _ stored distinct clash (Diagnostic.message_shadowedLocals _ _))
  · rename_i repeated
    have clash : ¬ declaration.members.Nodup :=
      fun distinct => repeated (NameSet.repeated_eq_nil_iff.mpr distinct)
    exact .of_skip fieldReports rfl (.declaration _ (fun _ _ => clash) rfl)

theorem Form.accounts_build :
    declaration.IsAccountedFor .form (build context declaration).result.toList
      (build context declaration).diagnostics := by
  by_cases stored : declaration.hasStore = true
  · exact accounts_build_of_hasStore context stored
  · rw [build]
    split
    · exact .of_skip rfl rfl (.declaration _ (fun _ there => absurd there stored) rfl)
    · rename_i shown
      split
      · rename_i properties typeName root
        have exported : declaration.exported = true := by simpa using shown
        exact absurd (Declaration.hasStore_iff.mpr ⟨exported, properties, typeName, root⟩) stored
      · exact .of_skip rfl rfl (.declaration _ (fun _ there => absurd there stored) rfl)

end Generators

/-- The name that the artifact of a kind exports for a declared name. -/
def ArtifactKind.identifier : ArtifactKind → String → String
  | .schema => Naming.schema
  | .store => Naming.store
  | .form => Naming.component

theorem ArtifactKind.identifier_inj {kind : ArtifactKind} {name other : String}
    (same : kind.identifier name = kind.identifier other) : name = other := by
  cases kind <;>
    simpa [identifier, Naming.schema, Naming.store, Naming.component, ← String.toList_inj] using same

namespace Generation

/-- A call of a generator makes one artifact, or says once that it skips the declaration. -/
theorem accounts_generateKind (settings : Settings) (context : Context) (declaration : Declaration)
    (kind : ArtifactKind) :
    declaration.IsAccountedFor kind (generateKind settings context declaration kind).artifacts
      (generateKind settings context declaration kind).diagnostics := by
  have ofOutcome {α : Type} {outcome : Outcome α} (code : α → String) (identifier : String)
      (accounted : declaration.IsAccountedFor kind outcome.result.toList outcome.diagnostics) :
      declaration.IsAccountedFor kind
        (Yield.ofOutcome declaration.name kind identifier (outcome.map code)).artifacts
        outcome.diagnostics := by
    have made := accounted.map (fun one =>
      Artifact.mk declaration.name kind identifier (code one))
    rw [Yield.ofOutcome, Outcome.map, Option.map_map, Option.toList_map]
    exact made
  cases kind with
  | schema => exact ofOutcome Schema.code _ (Schema.accounts_build context declaration)
  | store => exact ofOutcome _ _ (Store.accounts_build context declaration)
  | form => exact ofOutcome _ _ (Form.accounts_build context declaration)

theorem identifier_of_mem_generateKind {settings : Settings} {context : Context}
    {declaration : Declaration} {kind : ArtifactKind} {artifact : Artifact}
    (member : artifact ∈ (generateKind settings context declaration kind).artifacts) :
    artifact.identifier = kind.identifier declaration.name := by
  cases kind <;>
  · rw [generateKind, Yield.ofOutcome, Option.mem_toList, Option.map_eq_some_iff] at member
    obtain ⟨content, _, rfl⟩ := member
    rfl

theorem diagnostics_concat (yields : List Yield) :
    (Yield.concat yields).diagnostics = yields.flatMap Yield.diagnostics := by
  induction yields with
  | nil => rfl
  | cons first rest inductionHypothesis =>
      rw [Yield.concat, Yield.append, List.flatMap_cons, inductionHypothesis]

end Generation

/-! ## Reports of runs -/

/-- The artifacts of a report of one kind that are made for a name. -/
def Report.madeFor (report : Report) (kind : ArtifactKind) (name : String) : List Artifact :=
  report.artifacts.filter (fun artifact => artifact.kind == kind && artifact.declaration == name)

namespace Generation

/-- An entry that keeps away from all other chosen ones is the only chosen one. -/
private theorem filter_eq_singleton {α : Type} {R : α → α → Prop} {chosen : α → Bool}
    {entries : List α} (apart : entries.Pairwise R)
    (alike : ∀ first second, chosen first = true → chosen second = true → ¬ R first second)
    {entry : α} (member : entry ∈ entries) (isChosen : chosen entry = true) :
    entries.filter chosen = [entry] := by
  have there : entry ∈ entries.filter chosen := List.mem_filter.mpr ⟨member, isChosen⟩
  have apartToo : (entries.filter chosen).Pairwise R := apart.filter chosen
  have all : ∀ other ∈ entries.filter chosen, chosen other = true :=
    fun other inside => (List.mem_filter.mp inside).2
  generalize entries.filter chosen = left at there apartToo all
  match left with
  | [] => cases there
  | [only] => rw [List.mem_singleton.mp there]
  | first :: second :: rest =>
      have differ := (List.pairwise_cons.mp apartToo).1 second List.mem_cons_self
      exact absurd differ
        (alike first second (all first List.mem_cons_self) (all second (by simp)))

section Run

variable {settings : Settings} {model : Model} {report : Report}

/-- The report holds just the artifacts that the call for the declaration makes. -/
theorem madeFor_eq_generateKind {declaration : Declaration} {kind : ArtifactKind}
    (ran : run settings model = .ok report) (wanted : settings.wants kind = true)
    (found : model.arena.get? declaration.name = some declaration) :
    report.madeFor kind declaration.name =
      (generateKind settings (Context.ofModel model) declaration kind).artifacts := by
  rcases accounts_generateKind settings (Context.ofModel model) declaration kind with
    ⟨artifact, made, _⟩ | ⟨nothing, _⟩
  · rw [made]
    have makes : artifact ∈
        (generateKind settings (Context.ofModel model) declaration kind).artifacts :=
      made ▸ List.mem_singleton_self artifact
    obtain ⟨named, isKind⟩ := of_mem_generateKind makes
    have member : artifact ∈ report.artifacts := by
      rw [mem_artifacts ran, named, isKind]
      exact ⟨wanted, declaration, found, makes⟩
    apply filter_eq_singleton (pairwise_artifacts_apart ran) _ member (by simp [named, isKind])
    intro first second chosen chosenToo apart
    simp only [Bool.and_eq_true, beq_iff_eq] at chosen chosenToo
    exact apart (chosen.1.trans chosenToo.1.symm) (chosen.2.trans chosenToo.2.symm)
  · rw [nothing, Report.madeFor, List.filter_eq_nil_iff]
    intro artifact member chosen
    simp only [Bool.and_eq_true, beq_iff_eq] at chosen
    obtain ⟨_, other, foundToo, makes⟩ := (mem_artifacts ran).mp member
    rw [chosen.2, found] at foundToo
    cases foundToo
    rw [chosen.1, nothing] at makes
    cases makes

/-- A run reports what could not be read of the source, and then what the calls of the generators
report in turn. -/
theorem warnings_of_run {declarations : List Declaration} (ran : run settings model = .ok report)
    (ordered : model.ordered = .ok declarations) :
    report.warnings = Diagnostic.messages (model.errors.map Diagnostic.sourceError ++
      declarations.flatMap (fun declaration =>
        (ArtifactKind.all.filter settings.wants).flatMap (fun kind =>
          (generateKind settings (Context.ofModel model) declaration kind).diagnostics))) := by
  rw [run, ordered] at ran
  cases ran
  have calls (declaration : Declaration) :
      (generate settings (Context.ofModel model) declaration).diagnostics =
        (ArtifactKind.all.filter settings.wants).flatMap (fun kind =>
          (generateKind settings (Context.ofModel model) declaration kind).diagnostics) := by
    rw [generate, diagnostics_concat, List.flatMap_map]
  simp only [diagnostics_concat, List.flatMap_map, calls]

/-- No two artifacts of a kind export one name. -/
theorem nodup_identifiers (ran : run settings model = .ok report) :
    (report.artifacts.map (fun artifact => (artifact.kind, artifact.identifier))).Nodup := by
  refine List.pairwise_map.mpr ((pairwise_artifacts_apart ran).imp_of_mem ?_)
  intro first second member memberToo apart same
  obtain ⟨_, declaration, _, makes⟩ := (mem_artifacts ran).mp member
  obtain ⟨_, other, _, makesToo⟩ := (mem_artifacts ran).mp memberToo
  have isKind : first.kind = second.kind := congrArg Prod.fst same
  have named : first.identifier = second.identifier := congrArg Prod.snd same
  rw [identifier_of_mem_generateKind makes, identifier_of_mem_generateKind makesToo,
    isKind] at named
  apply apart isKind
  rw [(of_mem_generateKind makes).1, (of_mem_generateKind makesToo).1,
    ArtifactKind.identifier_inj named]

theorem emits_schema_of_declared_iff {declaration : Declaration}
    (ran : run settings model = .ok report) (wanted : settings.wants .schema = true)
    (found : model.arena.get? declaration.name = some declaration) :
    report.Emits .schema declaration.name ↔
      (declaration.exported = true ∨
        (Context.ofModel model).isNeeded declaration.name = true) ∧
      declaration.type.isFunction = false := by
  rw [emits_schema_iff ran]
  simp only [wanted, true_and, Model.schemaOf?_eq_some_iff, found, Option.some.injEq]
  constructor
  · rintro ⟨_, _, rfl, eligible, valued, _⟩
    exact ⟨eligible, valued⟩
  · rintro ⟨eligible, valued⟩
    exact ⟨_, declaration, rfl, eligible, valued, rfl⟩

/-- A wanted schema is missing exactly for functions, and for declarations that are not exported and
to which no path leads from a dependency of an exported one. -/
theorem not_emits_schema_iff {declaration : Declaration} (ran : run settings model = .ok report)
    (wanted : settings.wants .schema = true)
    (found : model.arena.get? declaration.name = some declaration) :
    ¬ report.Emits .schema declaration.name ↔
      declaration.type.isFunction = true ∨
        (declaration.exported = false ∧
          ∀ exporter ∈ model.declarations, exporter.exported = true →
            ∀ start ∈ exporter.dependencies, ¬ model.graph.Reaches start declaration.name) := by
  rw [emits_schema_of_declared_iff ran wanted found, not_and_or, not_or, Context.isNeeded_ofModel,
    Bool.not_eq_true, Bool.not_eq_false, or_comm]
  push Not
  rfl

/-- A run calls each wanted generator once for every declared name, with the last declaration of the
name. The report holds exactly one artifact of the kind for it and the call has not skipped it, or
none and the call has said once that it does. So no two artifacts of a kind export one name. -/
theorem declarations_accounted_for (settings : Settings) (model : Model) :
    ∃ (report : Report) (declarations : List Declaration), run settings model = .ok report ∧
      (declarations.map Declaration.name).Nodup ∧
      (∀ name, name ∈ declarations.map Declaration.name ↔
        name ∈ model.declarations.map Declaration.name) ∧
      report.warnings = Diagnostic.messages (model.errors.map Diagnostic.sourceError ++
        declarations.flatMap (fun declaration =>
          (ArtifactKind.all.filter settings.wants).flatMap (fun kind =>
            (generateKind settings (Context.ofModel model) declaration kind).diagnostics))) ∧
      (∀ declaration ∈ declarations, model.ListsLast declaration ∧
        ∀ kind, settings.wants kind = true →
          declaration.IsAccountedFor kind (report.madeFor kind declaration.name)
            (generateKind settings (Context.ofModel model) declaration kind).diagnostics) ∧
      (report.artifacts.map (fun artifact => (artifact.kind, artifact.identifier))).Nodup ∧
      (settings.wants .schema = true → ∀ declaration ∈ declarations,
        (¬ report.Emits .schema declaration.name ↔
          declaration.type.isFunction = true ∨
            (declaration.exported = false ∧
              ∀ exporter ∈ model.declarations, exporter.exported = true →
                ∀ start ∈ exporter.dependencies,
                  ¬ model.graph.Reaches start declaration.name))) := by
  obtain ⟨report, ran⟩ := exists_report settings model
  obtain ⟨names, declarations, sorted, ordered, named, counted⟩ := model.exists_ordered
  refine ⟨report, declarations, ran, ?_, ?_, warnings_of_run ran ordered, ?_,
    nodup_identifiers ran, ?_⟩
  · rw [named]
    exact (Graph.extends_of_order sorted).settled.distinct
  · intro name
    rw [named, Model.mem_of_order sorted, Model.exists_get?_arena_iff]
  · intro declaration member
    have found := (counted declaration).mp member
    refine ⟨(Model.get?_arena_eq_some_iff.mp found).2, ?_⟩
    intro kind wanted
    rw [madeFor_eq_generateKind ran wanted found]
    exact accounts_generateKind settings (Context.ofModel model) declaration kind
  · intro wanted declaration member
    exact not_emits_schema_iff ran wanted ((counted declaration).mp member)

end Run

/-- A pet that is declared twice, with a field that the component of its form cannot take from the
store, and a note that nothing needs. -/
def kennelModel : Model where
  declarations :=
    [⟨"Pet", .primitive "string", [], false⟩,
      ⟨"Note", .object [⟨"text", .primitive "string", false⟩] none, [], false⟩,
      ⟨"Pet", .object [⟨"name", .primitive "string", false⟩,
        ⟨"errors", .array (some (.primitive "string")), false⟩,
        ⟨"call", .function, false⟩] none, [], true⟩]
  errors := []

/-- The form of the pet is not made, and is reported as skipped once, after its function; the note has
no schema. -/
theorem kennel_accounted_for :
    ∃ (report : Report) (pet : Declaration), run Settings.standard kennelModel = .ok report ∧
      kennelModel.ListsLast pet ∧ pet.name = "Pet" ∧
      Settings.standard.wants .form = true ∧ report.madeFor .form "Pet" = [] ∧
      Diagnostic.messages
          (generateKind Settings.standard (Context.ofModel kennelModel) pet .form).diagnostics =
        ["Skipping field 'call' of Pet: function type",
          "Skipping PetForm: store member(s) clash with form locals: errors"] ∧
      Settings.standard.wants .schema = true ∧ ¬ report.Emits .schema "Note" := by
  obtain ⟨report, declarations, ran, _, names, _, accounted, _, missing⟩ :=
    declarations_accounted_for Settings.standard kennelModel
  obtain ⟨pet, petMember, petNamed⟩ := List.mem_map.mp ((names "Pet").mpr (by decide))
  obtain ⟨note, noteMember, noteNamed⟩ := List.mem_map.mp ((names "Note").mpr (by decide))
  obtain ⟨last, forms⟩ := accounted pet petMember
  have foundPet := Model.get?_arena_eq_some_iff.mpr ⟨petNamed, last⟩
  have foundNote := Model.get?_arena_eq_some_iff.mpr ⟨noteNamed, (accounted note noteMember).1⟩
  obtain rfl := Option.some.inj foundPet
  obtain rfl := Option.some.inj foundNote
  have wanted : Settings.standard.wants .form = true := rfl
  have wantedSchema : Settings.standard.wants .schema = true := rfl
  refine ⟨report, _, ran, last, rfl, wanted, ?_, by decide +kernel, wantedSchema, ?_⟩
  · rcases forms .form wanted with ⟨_, _, nothing⟩ | ⟨none, _⟩
    · exact absurd nothing (by decide +kernel)
    · exact none
  · have alone : ∀ exporter ∈ kennelModel.declarations, exporter.dependencies = [] := by decide
    refine (missing wantedSchema _ noteMember).mpr (Or.inr ⟨rfl, ?_⟩)
    intro exporter member _ start there
    rw [alone exporter member] at there
    cases there

end Generation

end TypeScaffold
