import TypeScaffold.Generation.Run
import TypeScaffold.Proofs.Model.Precedence
import TypeScaffold.Proofs.Store.Members
import TypeScaffold.Proofs.Validator.Schema

/-!
# Artifacts of a run

Every model has a report. Its artifacts of one kind are exactly those that the generator of the kind
makes for the declarations that count, and a relation that holds along the order of the names holds
along the artifacts. So an artifact stands after those of the names that its own name leads to
without circles, and nothing else holds in every order of the declarations.
-/

namespace TypeScaffold

/-- The schema that a run makes for a name. -/
def Model.schemaOf? (model : Model) (name : String) : Option Schema :=
  (model.arena.get? name).bind (fun declaration =>
    (Schema.build (Context.ofModel model) declaration).result)

/-- The store that a run makes for a name. -/
def Model.storeOf? (model : Model) (name : String) : Option Store :=
  (model.arena.get? name).bind (fun declaration =>
    (Store.build (Context.ofModel model) declaration).result)

/-- The artifact that a report holds of a schema. -/
def Schema.artifact (schema : Schema) : Artifact :=
  ⟨schema.name, .schema, Naming.schema schema.name, schema.code⟩

/-- The artifact that a report holds of a store. -/
def Store.artifact (options : StoreOptions) (store : Store) : Artifact :=
  ⟨store.name, .store, Naming.store store.name, store.code options⟩

/-- The report has an artifact of the kind for the name. -/
def Report.Emits (report : Report) (kind : ArtifactKind) (name : String) : Prop :=
  ∃ artifact ∈ report.artifacts, artifact.kind = kind ∧ artifact.declaration = name

/-- Each artifact of the kind for the first name stands before each one for the second. -/
def Report.StandsBefore (report : Report) (kind : ArtifactKind) (first second : String) : Prop :=
  ∀ (earlier later : Nat) (artifact dependent : Artifact),
    report.artifacts[earlier]? = some artifact →
    artifact.kind = kind → artifact.declaration = first →
    report.artifacts[later]? = some dependent →
    dependent.kind = kind → dependent.declaration = second →
    earlier < later

namespace Generation

theorem artifacts_concat (yields : List Yield) :
    (Yield.concat yields).artifacts = yields.flatMap Yield.artifacts := by
  induction yields with
  | nil => rfl
  | cons first rest inductionHypothesis =>
      rw [Yield.concat, Yield.append, List.flatMap_cons, inductionHypothesis]

/-! ## The artifacts of one declaration -/

theorem of_mem_ofOutcome {declaration identifier : String} {kind : ArtifactKind}
    {outcome : Outcome String} {artifact : Artifact}
    (member : artifact ∈ (Yield.ofOutcome declaration kind identifier outcome).artifacts) :
    artifact.declaration = declaration ∧ artifact.kind = kind := by
  rw [Yield.ofOutcome, Option.mem_toList, Option.map_eq_some_iff] at member
  obtain ⟨content, _, rfl⟩ := member
  exact ⟨rfl, rfl⟩

theorem of_mem_generateKind {settings : Settings} {context : Context} {declaration : Declaration}
    {kind : ArtifactKind} {artifact : Artifact}
    (member : artifact ∈ (generateKind settings context declaration kind).artifacts) :
    artifact.declaration = declaration.name ∧ artifact.kind = kind := by
  cases kind <;> exact of_mem_ofOutcome member

/-- For each declaration the generator of the kind prints what is made for it, if anything. -/
def Prints {α : Type} (settings : Settings) (context : Context) (kind : ArtifactKind)
    (result : Declaration → Option α) (print : α → Artifact) : Prop :=
  ∀ declaration, (generateKind settings context declaration kind).artifacts =
    ((result declaration).map print).toList

theorem Prints.mem_generateKind_iff {α : Type} {settings : Settings} {context : Context}
    {kind : ArtifactKind} {result : Declaration → Option α} {print : α → Artifact}
    (prints : Prints settings context kind result print)
    {declaration : Declaration} {artifact : Artifact} :
    artifact ∈ (generateKind settings context declaration kind).artifacts ↔
      ∃ made, result declaration = some made ∧ artifact = print made := by
  rw [prints, Option.mem_toList, Option.map_eq_some_iff]
  simp only [eq_comm]

theorem prints_schema (settings : Settings) (context : Context) :
    Prints settings context .schema (fun declaration => (Schema.build context declaration).result)
      Schema.artifact := by
  intro declaration
  rw [generateKind, Yield.ofOutcome, Outcome.map]
  dsimp only
  cases built : (Schema.build context declaration).result with
  | none => rfl
  | some schema =>
      obtain ⟨_, _, rfl⟩ := Schema.result_build_eq_some_iff.mp built
      rfl

theorem prints_store (settings : Settings) (context : Context) :
    Prints settings context .store (fun declaration => (Store.build context declaration).result)
      (Store.artifact settings.storeOptions) := by
  intro declaration
  rw [generateKind, Yield.ofOutcome, Outcome.map]
  dsimp only
  cases built : (Store.build context declaration).result with
  | none => rfl
  | some store =>
      obtain ⟨_, _, rfl⟩ := Store.result_build_eq_some_iff.mp built
      rfl

theorem mem_generate {settings : Settings} {context : Context} {declaration : Declaration}
    {artifact : Artifact} :
    artifact ∈ (generate settings context declaration).artifacts ↔
      settings.wants artifact.kind = true ∧
        artifact ∈ (generateKind settings context declaration artifact.kind).artifacts := by
  rw [generate, artifacts_concat, List.flatMap_map, List.mem_flatMap]
  constructor
  · intro generated
    obtain ⟨kind, kindMember, member⟩ := generated
    obtain rfl := (of_mem_generateKind member).2
    exact ⟨(List.mem_filter.mp kindMember).2, member⟩
  · intro made
    obtain ⟨wanted, member⟩ := made
    have listed : artifact.kind ∈ ArtifactKind.all := by
      cases artifact.kind <;> simp [ArtifactKind.all]
    exact ⟨artifact.kind, List.mem_filter.mpr ⟨listed, wanted⟩, member⟩

/-- The yield of a declaration is what its schema, its store and its form yield. -/
theorem generate_congr (settings : Settings) {context other : Context}
    {declaration another : Declaration} (named : declaration.name = another.name)
    (schema : Schema.build context declaration = Schema.build other another)
    (store : Store.build context declaration = Store.build other another)
    (form : Form.build context declaration = Form.build other another) :
    generate settings context declaration = generate settings other another := by
  have kinds : generateKind settings context declaration = generateKind settings other another := by
    funext kind
    cases kind with
    | schema => rw [generateKind, generateKind, schema, named]
    | store => rw [generateKind, generateKind, store, named]
    | form => rw [generateKind, generateKind, form, named]
  rw [generate, generate, kinds]

/-! ## The artifacts of a run -/

theorem exists_report (settings : Settings) (model : Model) :
    ∃ report, run settings model = .ok report := by
  obtain ⟨_, declarations, _, ordered, _, _⟩ := model.exists_ordered
  rw [run, ordered]
  exact ⟨_, rfl⟩

/-- A run makes the same report if changing the declarations leaves the order of their names and what
is generated for each. -/
theorem run_mapDeclarations {settings : Settings} {model : Model}
    (change : Declaration → Declaration)
    (named : ∀ declaration, (change declaration).name = declaration.name)
    (sorted : (model.mapDeclarations change).graph.withoutCircles.order =
      model.graph.withoutCircles.order)
    (generates : ∀ declaration,
      generate settings (Context.ofModel (model.mapDeclarations change)) (change declaration) =
        generate settings (Context.ofModel model) declaration) :
    run settings (model.mapDeclarations change) = run settings model := by
  have generated : generate settings (Context.ofModel (model.mapDeclarations change)) ∘ change =
      generate settings (Context.ofModel model) := funext generates
  have errors : (model.mapDeclarations change).errors = model.errors := rfl
  rw [run, run, Model.ordered_mapDeclarations change named sorted, errors]
  cases model.ordered with
  | error circle => rfl
  | ok declarations => simp only [Except.map, List.map_map, generated]

section Run

variable {settings : Settings} {model : Model} {report : Report}

theorem artifacts_of_run {declarations : List Declaration}
    (ran : run settings model = .ok report) (ordered : model.ordered = .ok declarations) :
    report.artifacts = declarations.flatMap (fun declaration =>
      (generate settings (Context.ofModel model) declaration).artifacts) := by
  rw [run, ordered] at ran
  cases ran
  exact (artifacts_concat _).trans (List.flatMap_map _ _ _)

theorem mem_artifacts {artifact : Artifact} (ran : run settings model = .ok report) :
    artifact ∈ report.artifacts ↔
      settings.wants artifact.kind = true ∧
        ∃ declaration, model.arena.get? artifact.declaration = some declaration ∧
          artifact ∈
            (generateKind settings (Context.ofModel model) declaration artifact.kind).artifacts := by
  obtain ⟨_, declarations, _, ordered, _, counted⟩ := model.exists_ordered
  rw [artifacts_of_run ran ordered, List.mem_flatMap]
  constructor
  · intro there
    obtain ⟨declaration, member, generated⟩ := there
    obtain ⟨wanted, made⟩ := mem_generate.mp generated
    refine ⟨wanted, declaration, ?_, made⟩
    rw [(of_mem_generateKind made).1]
    exact (counted declaration).mp member
  · intro makes
    obtain ⟨wanted, declaration, found, made⟩ := makes
    refine ⟨declaration, (counted declaration).mpr ?_, mem_generate.mpr ⟨wanted, made⟩⟩
    rw [← (of_mem_generateKind made).1]
    exact found

/-! ## The artifacts of one kind -/

section Prints

variable {α : Type} {kind : ArtifactKind} {result : Declaration → Option α} {print : α → Artifact}

theorem Prints.mem_iff (prints : Prints settings (Context.ofModel model) kind result print)
    {artifact : Artifact} (ran : run settings model = .ok report) (isKind : artifact.kind = kind) :
    artifact ∈ report.artifacts ↔
      settings.wants kind = true ∧
        ∃ made, (model.arena.get? artifact.declaration).bind result = some made ∧
          artifact = print made := by
  rw [mem_artifacts ran, isKind]
  apply and_congr_right
  intro _
  constructor
  · intro generated
    obtain ⟨declaration, found, member⟩ := generated
    obtain ⟨made, there, equal⟩ := prints.mem_generateKind_iff.mp member
    exact ⟨made, Option.bind_eq_some_iff.mpr ⟨declaration, found, there⟩, equal⟩
  · intro printed
    obtain ⟨made, there, equal⟩ := printed
    obtain ⟨declaration, found, built⟩ := Option.bind_eq_some_iff.mp there
    exact ⟨declaration, found, prints.mem_generateKind_iff.mpr ⟨made, built, equal⟩⟩

theorem Prints.print_mem (prints : Prints settings (Context.ofModel model) kind result print)
    {name : String} {made : α} (ran : run settings model = .ok report)
    (wanted : settings.wants kind = true)
    (there : (model.arena.get? name).bind result = some made) :
    print made ∈ report.artifacts ∧ (print made).kind = kind ∧ (print made).declaration = name := by
  obtain ⟨declaration, found, built⟩ := Option.bind_eq_some_iff.mp there
  have generated := prints.mem_generateKind_iff.mpr ⟨made, built, rfl⟩
  obtain ⟨ofDeclaration, isKind⟩ := of_mem_generateKind generated
  have named : (print made).declaration = name :=
    ofDeclaration.trans (Model.mem_of_get?_arena found).2
  refine ⟨(prints.mem_iff ran isKind).mpr ⟨wanted, made, ?_, rfl⟩, isKind, named⟩
  rw [named]
  exact there

theorem Prints.emits_iff (prints : Prints settings (Context.ofModel model) kind result print)
    {name : String} (ran : run settings model = .ok report) :
    report.Emits kind name ↔
      settings.wants kind = true ∧ ∃ made, (model.arena.get? name).bind result = some made := by
  constructor
  · intro emits
    obtain ⟨artifact, member, isKind, rfl⟩ := emits
    obtain ⟨wanted, made, there, _⟩ := (prints.mem_iff ran isKind).mp member
    exact ⟨wanted, made, there⟩
  · intro makes
    obtain ⟨wanted, made, there⟩ := makes
    exact ⟨print made, prints.print_mem ran wanted there⟩

end Prints

/-! ## Schemas and stores -/

theorem mem_schema_artifacts {artifact : Artifact} (ran : run settings model = .ok report)
    (isSchema : artifact.kind = .schema) :
    artifact ∈ report.artifacts ↔
      settings.wants .schema = true ∧
        ∃ schema, model.schemaOf? artifact.declaration = some schema ∧
          artifact = schema.artifact :=
  (prints_schema settings _).mem_iff ran isSchema

theorem mem_store_artifacts {artifact : Artifact} (ran : run settings model = .ok report)
    (isStore : artifact.kind = .store) :
    artifact ∈ report.artifacts ↔
      settings.wants .store = true ∧
        ∃ store, model.storeOf? artifact.declaration = some store ∧
          artifact = store.artifact settings.storeOptions :=
  (prints_store settings _).mem_iff ran isStore

theorem schema_artifact_mem {name : String} {schema : Schema}
    (ran : run settings model = .ok report) (wanted : settings.wants .schema = true)
    (made : model.schemaOf? name = some schema) : schema.artifact ∈ report.artifacts :=
  ((prints_schema settings _).print_mem ran wanted made).1

theorem store_artifact_mem {name : String} {store : Store}
    (ran : run settings model = .ok report) (wanted : settings.wants .store = true)
    (made : model.storeOf? name = some store) :
    store.artifact settings.storeOptions ∈ report.artifacts :=
  ((prints_store settings _).print_mem ran wanted made).1

theorem emits_schema_iff {name : String} (ran : run settings model = .ok report) :
    report.Emits .schema name ↔
      settings.wants .schema = true ∧ ∃ schema, model.schemaOf? name = some schema :=
  (prints_schema settings _).emits_iff ran

theorem emits_store_iff {name : String} (ran : run settings model = .ok report) :
    report.Emits .store name ↔
      settings.wants .store = true ∧ ∃ store, model.storeOf? name = some store :=
  (prints_store settings _).emits_iff ran

/-! ## The order of artifacts -/

theorem mem_of_emits {names : List String} {kind : ArtifactKind} {name : String}
    (ran : run settings model = .ok report)
    (sorted : model.graph.withoutCircles.order = .ok names)
    (emits : report.Emits kind name) : name ∈ names := by
  obtain ⟨artifact, member, _, rfl⟩ := emits
  obtain ⟨_, declaration, found, _⟩ := (mem_artifacts ran).mp member
  exact (Model.mem_of_order sorted).mpr ⟨declaration, found⟩

theorem pairwise_artifacts {names : List String} (ran : run settings model = .ok report)
    (sorted : model.graph.withoutCircles.order = .ok names) :
    report.artifacts.Pairwise (fun earlier later =>
      names.idxOf earlier.declaration ≤ names.idxOf later.declaration) := by
  obtain ⟨others, declarations, sortedOthers, ordered, named, _⟩ := model.exists_ordered
  cases sorted.symm.trans sortedOthers
  have distinct : names.Nodup := (Graph.extends_of_order sorted).settled.distinct
  have along : names.Pairwise (fun earlier later => names.idxOf earlier ≤ names.idxOf later) := by
    rw [List.pairwise_iff_getElem]
    intro earlier later earlierBound laterBound before
    rw [distinct.idxOf_getElem earlier earlierBound, distinct.idxOf_getElem later laterBound]
    omega
  have owner : ∀ declaration : Declaration, ∀ artifact ∈
      (generate settings (Context.ofModel model) declaration).artifacts,
      artifact.declaration = declaration.name :=
    fun declaration artifact member => (of_mem_generateKind (mem_generate.mp member).2).1
  rw [artifacts_of_run ran ordered, List.pairwise_flatMap]
  constructor
  -- All artifacts of one declaration are at one place of the order.
  · intro declaration _
    apply List.pairwise_of_forall_mem_list
    intro earlier earlierMember later laterMember
    rw [owner declaration earlier earlierMember, owner declaration later laterMember]
  · have alongDeclarations : declarations.Pairwise (fun earlier later =>
        names.idxOf earlier.name ≤ names.idxOf later.name) := by
      rw [← List.pairwise_map (f := Declaration.name)
        (R := fun earlier later => names.idxOf earlier ≤ names.idxOf later), named]
      exact along
    refine alongDeclarations.imp ?_
    intro first second before earlier earlierMember later laterMember
    rw [owner first earlier earlierMember, owner second later laterMember]
    exact before

/-- Of two artifacts that of the name earlier in the order stands before. -/
theorem standsBefore_iff_idxOf_lt {names : List String} {kind : ArtifactKind}
    {first second : String} (ran : run settings model = .ok report)
    (sorted : model.graph.withoutCircles.order = .ok names)
    (emitsFirst : report.Emits kind first) (emitsSecond : report.Emits kind second) :
    report.StandsBefore kind first second ↔ names.idxOf first < names.idxOf second := by
  have inReport := List.pairwise_iff_getElem.mp (pairwise_artifacts ran sorted)
  have firstMember := mem_of_emits ran sorted emitsFirst
  constructor
  · intro stands
    obtain ⟨artifact, member, isKind, isFirst⟩ := emitsFirst
    obtain ⟨dependent, dependentMember, isKindToo, isSecond⟩ := emitsSecond
    obtain ⟨earlier, earlierBound, rfl⟩ := List.mem_iff_getElem.mp member
    obtain ⟨later, laterBound, rfl⟩ := List.mem_iff_getElem.mp dependentMember
    have before : earlier < later :=
      stands earlier later _ _ (List.getElem?_eq_getElem earlierBound) isKind isFirst
        (List.getElem?_eq_getElem laterBound) isKindToo isSecond
    have upTo := inReport earlier later earlierBound laterBound before
    rw [isFirst, isSecond] at upTo
    -- An artifact of the name itself would stand before itself.
    have apart : names.idxOf first ≠ names.idxOf second := by
      intro equal
      obtain rfl := (List.idxOf_inj firstMember).mp equal
      have again : earlier < earlier :=
        stands earlier earlier _ _ (List.getElem?_eq_getElem earlierBound) isKind isFirst
          (List.getElem?_eq_getElem earlierBound) isKind isFirst
      omega
    omega
  · intro before earlier later artifact dependent atEarlier _ isFirst atLater _ isSecond
    obtain ⟨earlierBound, rfl⟩ := List.getElem?_eq_some_iff.mp atEarlier
    obtain ⟨laterBound, rfl⟩ := List.getElem?_eq_some_iff.mp atLater
    rcases Nat.lt_trichotomy earlier later with inOrder | same | after
    · exact inOrder
    · subst same
      rw [isFirst] at isSecond
      rw [isSecond] at before
      omega
    · have upTo := inReport later earlier laterBound earlierBound after
      rw [isFirst, isSecond] at upTo
      omega

/-- An artifact stands after those of the names that its own name leads to without circles. -/
theorem standsBefore_of_leadsTo {kind : ArtifactKind} {first second : String}
    (ran : run settings model = .ok report)
    (emitsFirst : report.Emits kind first) (emitsSecond : report.Emits kind second)
    (path : model.graph.withoutCircles.LeadsTo second first) :
    report.StandsBefore kind first second := by
  obtain ⟨names, _, sorted, _⟩ := model.exists_ordered
  rw [standsBefore_iff_idxOf_lt ran sorted emitsFirst emitsSecond]
  exact Model.idxOf_lt_of_leadsTo sorted (mem_of_emits ran sorted emitsFirst)
    (mem_of_emits ran sorted emitsSecond) path

/-- The artifact of the first declared name stands before those of all names that its own name does
not lead to without circles. -/
theorem not_standsBefore_of_keys {kind : ArtifactKind} {first second : String} {rest : List String}
    (ran : run settings model = .ok report)
    (emitsFirst : report.Emits kind first) (emitsSecond : report.Emits kind second)
    (keys : model.graph.keys = second :: rest)
    (apart : ¬ model.graph.withoutCircles.LeadsTo second first) :
    ¬ report.StandsBefore kind first second := by
  obtain ⟨names, _, sorted, _⟩ := model.exists_ordered
  rw [standsBefore_iff_idxOf_lt ran sorted emitsFirst emitsSecond]
  exact Model.not_idxOf_lt_of_keys sorted keys apart

/-- Where no such path leads, the declarations can be listed so that the artifacts stand the other
way round. -/
theorem exists_rearrangement_not_standsBefore {first second : String} {declaration : Declaration}
    (kind : ArtifactKind) (found : model.arena.get? second = some declaration)
    (apart : ¬ model.graph.withoutCircles.LeadsTo second first) :
    ∃ other : Model, other.Rearranges model ∧
      ∀ report, run settings other = .ok report →
        report.Emits kind first → report.Emits kind second →
        ¬ report.StandsBefore kind first second := by
  obtain ⟨other, rearranged, reversed⟩ :=
    Model.exists_rearrangement_not_ordersBefore ⟨declaration, found⟩ apart
  refine ⟨other, rearranged, ?_⟩
  intro report ran emitsFirst emitsSecond
  obtain ⟨names, _, sorted, _⟩ := other.exists_ordered
  rw [standsBefore_iff_idxOf_lt ran sorted emitsFirst emitsSecond,
    ← Model.ordersBefore_iff sorted]
  exact reversed

end Run

end Generation

end TypeScaffold
