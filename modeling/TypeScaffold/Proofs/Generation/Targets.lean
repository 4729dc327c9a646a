import TypeScaffold.Proofs.Generation.Artifacts

/-!
# Selecting kinds of artifacts

Settings choose which kinds of artifacts a run makes. The choice does nothing else: a run makes what
a run for all kinds makes, without the artifacts of the other kinds, and reports a part of what that
run reports, in its order. Neither the order of the chosen kinds nor repeating one matters.
-/

namespace TypeScaffold

/-- The settings with another choice of kinds. -/
def Settings.withTargets (settings : Settings) (targets : List ArtifactKind) : Settings :=
  { settings with targets := targets }

namespace Generation

/-- Of all that is yielded, the artifacts of the wanted kinds and some of the reports are left. -/
structure Yield.Selects (wanted : ArtifactKind → Bool) (whole part : Yield) : Prop where
  artifacts : part.artifacts = whole.artifacts.filter (fun artifact => wanted artifact.kind)
  diagnostics : part.diagnostics.Sublist whole.diagnostics

namespace Yield.Selects

variable {wanted : ArtifactKind → Bool}

theorem nothing : Selects wanted (concat []) (concat []) where
  artifacts := rfl
  diagnostics := List.Sublist.refl []

theorem append {first second firstPart secondPart : Yield}
    (ofFirst : Selects wanted first firstPart) (ofSecond : Selects wanted second secondPart) :
    Selects wanted (first.append second) (firstPart.append secondPart) where
  artifacts := by
    rw [Yield.append, Yield.append, List.filter_append, ofFirst.artifacts, ofSecond.artifacts]
  diagnostics := ofFirst.diagnostics.append ofSecond.diagnostics

theorem of_wanted {whole : Yield} {kind : ArtifactKind}
    (uniform : ∀ artifact ∈ whole.artifacts, artifact.kind = kind) (isWanted : wanted kind = true) :
    Selects wanted whole whole where
  artifacts := by
    rw [List.filter_eq_self.mpr]
    intro artifact member
    rw [uniform artifact member, isWanted]
  diagnostics := List.Sublist.refl whole.diagnostics

/-- A yield of an unwanted kind in front adds nothing that is selected. -/
theorem skip {whole rest part : Yield} {kind : ArtifactKind}
    (uniform : ∀ artifact ∈ whole.artifacts, artifact.kind = kind) (unwanted : ¬ wanted kind = true)
    (ofRest : Selects wanted rest part) : Selects wanted (whole.append rest) part where
  artifacts := by
    have nothingLeft : whole.artifacts.filter (fun artifact => wanted artifact.kind) = [] := by
      rw [List.filter_eq_nil_iff]
      intro artifact member
      rw [uniform artifact member]
      exact unwanted
    rw [Yield.append, List.filter_append, nothingLeft, List.nil_append, ofRest.artifacts]
  diagnostics := ofRest.diagnostics.trans (List.sublist_append_right _ _)

/-- Leaving out the generators of unwanted kinds selects from what all generators yield. -/
theorem concat_filter {yields : ArtifactKind → Yield}
    (uniform : ∀ kind, ∀ artifact ∈ (yields kind).artifacts, artifact.kind = kind) :
    ∀ kinds : List ArtifactKind,
      Selects wanted (concat (kinds.map yields)) (concat ((kinds.filter wanted).map yields))
  | [] => nothing
  | kind :: rest => by
      have ofRest := concat_filter uniform rest
      by_cases isWanted : wanted kind = true
      · rw [List.filter_cons_of_pos isWanted]
        exact append (of_wanted (uniform kind) isWanted) ofRest
      · rw [List.filter_cons_of_neg isWanted]
        exact skip (uniform kind) isWanted ofRest

theorem concat_map {wholes parts : Declaration → Yield}
    (selects : ∀ declaration, Selects wanted (wholes declaration) (parts declaration)) :
    ∀ declarations : List Declaration,
      Selects wanted (concat (declarations.map wholes)) (concat (declarations.map parts))
  | [] => nothing
  | declaration :: rest => append (selects declaration) (concat_map selects rest)

end Yield.Selects

/-! ## Generators under a choice -/

/-- No generator knows which kinds are chosen. -/
theorem generateKind_withTargets (settings : Settings) (targets : List ArtifactKind) :
    generateKind (settings.withTargets targets) = generateKind settings := by
  funext context declaration kind
  cases kind <;> rfl

theorem filter_wants_congr {settings other : Settings}
    (same : ∀ kind, kind ∈ other.targets ↔ kind ∈ settings.targets) :
    ArtifactKind.all.filter other.wants = ArtifactKind.all.filter settings.wants := by
  apply List.filter_congr
  intro kind _
  rw [Settings.wants, Settings.wants, Bool.eq_iff_iff, List.contains_iff_mem,
    List.contains_iff_mem, same]

theorem generate_selects (settings : Settings) (context : Context) (declaration : Declaration) :
    Yield.Selects settings.wants
      (generate (settings.withTargets ArtifactKind.all) context declaration)
      (generate settings context declaration) := by
  have every : ArtifactKind.all.filter (settings.withTargets ArtifactKind.all).wants =
      ArtifactKind.all := by
    rw [List.filter_eq_self]
    intro kind member
    exact List.contains_iff_mem.mpr member
  rw [generate, generate, every, generateKind_withTargets]
  apply Yield.Selects.concat_filter
  intro kind artifact member
  exact (of_mem_generateKind member).2

/-! ## Runs for a choice -/

theorem run_withTargets {settings : Settings} {targets : List ArtifactKind}
    (same : ∀ kind, kind ∈ targets ↔ kind ∈ settings.targets) (model : Model) :
    run (settings.withTargets targets) model = run settings model := by
  have generates : generate (settings.withTargets targets) = generate settings := by
    funext context declaration
    rw [generate, generate, filter_wants_congr same, generateKind_withTargets]
  rw [run, run, generates]

/-- A run makes those artifacts that a run for all kinds makes and that are of the chosen kinds, in
the same order, and reports in the same order a part of what that run reports. -/
theorem run_selects_targets (settings : Settings) (model : Model) :
    ∃ report whole, run settings model = .ok report ∧
      run (settings.withTargets ArtifactKind.all) model = .ok whole ∧
      report.artifacts = whole.artifacts.filter (fun artifact => settings.wants artifact.kind) ∧
      report.warnings.Sublist whole.warnings ∧
      ∀ targets, (∀ kind, kind ∈ targets ↔ kind ∈ settings.targets) →
        run (settings.withTargets targets) model = .ok report := by
  obtain ⟨_, declarations, _, ordered, _, _⟩ := model.exists_ordered
  have selects := Yield.Selects.concat_map
    (generate_selects settings (Context.ofModel model)) declarations
  obtain ⟨report, ran⟩ := exists_report settings model
  obtain ⟨whole, ranWhole⟩ := exists_report (settings.withTargets ArtifactKind.all) model
  refine ⟨report, whole, ran, ranWhole, ?_, ?_, ?_⟩
  · rw [run, ordered] at ran ranWhole
    cases ran
    cases ranWhole
    exact selects.artifacts
  · rw [run, ordered] at ran ranWhole
    cases ran
    cases ranWhole
    apply List.Sublist.map
    exact (List.Sublist.refl _).append selects.diagnostics
  · intro targets same
    rw [run_withTargets same, ran]

/-- An exported declaration and one that nothing needs. -/
def shelfModel : Model where
  declarations :=
    [⟨"Shelf", .object [⟨"places", .primitive "number", false⟩] none, [], true⟩,
      ⟨"Label", .object [⟨"text", .primitive "string", false⟩] none, [], false⟩]
  errors := []

/-- A choice that names one of its kinds twice and follows no order. -/
def untidySettings : Settings :=
  Settings.standard.withTargets [.form, .schema, .form]

theorem shelf_run_of_untidy_choice :
    (∀ kind, kind ∈ [ArtifactKind.schema, .form] ↔ kind ∈ untidySettings.targets) ∧
      ∃ report whole, run untidySettings shelfModel = .ok report ∧
        run (untidySettings.withTargets ArtifactKind.all) shelfModel = .ok whole ∧
        report.artifacts =
          whole.artifacts.filter (fun artifact => untidySettings.wants artifact.kind) ∧
        report.warnings.Sublist whole.warnings ∧
        run (untidySettings.withTargets [.schema, .form]) shelfModel = .ok report := by
  have same : ∀ kind, kind ∈ [ArtifactKind.schema, .form] ↔ kind ∈ untidySettings.targets := by
    intro kind
    cases kind <;> decide
  obtain ⟨report, whole, ran, ranWhole, artifacts, warnings, ignores⟩ :=
    run_selects_targets untidySettings shelfModel
  exact ⟨same, report, whole, ran, ranWhole, artifacts, warnings, ignores _ same⟩

end Generation

end TypeScaffold
