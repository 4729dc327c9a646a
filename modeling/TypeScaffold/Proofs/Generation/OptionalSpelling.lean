import TypeScaffold.Proofs.Form.Spelling
import TypeScaffold.Proofs.Generation.Artifacts

/-!
# The spellings of an optional property

A report does not tell how the optional properties of the declared objects are written: by the mark,
by a union with `undefined`, or by both. This holds for every way of writing properties anew in which
each is read as before, and the spellings of an optional property all come to the mark alone.
-/

namespace TypeScaffold

section Alike

variable {change : Property → Property} (keeps : ∀ property, (change property).ReadsAs property)

include keeps

theorem Validator.ofNode_respell (node : TypeNode) : ofNode (node.respell change) = ofNode node := by
  have property : ∀ property : Property, ofProperty (change property) = ofProperty property := by
    intro property
    rw [ofProperty_eq, ofProperty_eq, (keeps property).optional, (keeps property).type]
  cases node with
  | object properties name =>
      rw [TypeNode.respell, ofNode, ofNode, ofProperties_eq_map, ofProperties_eq_map, List.map_map]
      simp only [Function.comp_def, property, (keeps _).name]
  | _ => rfl

/-- A declaration has the same schema, and the same is reported about it. -/
theorem Schema.build_respell (context : Context) (declaration : Declaration) :
    build (context.respell change) (declaration.respell change) = build context declaration := by
  have needed : (context.respell change).isNeeded = context.isNeeded := rfl
  have recursive : (context.respell change).isRecursive = context.isRecursive := rfl
  simp only [build, Declaration.respell, TypeNode.isFunction_respell,
    Validator.ofNode_respell keeps, needed, recursive]

namespace Generation

theorem generate_respell (settings : Settings) (context : Context) (declaration : Declaration) :
    generate settings (context.respell change) (declaration.respell change) =
      generate settings context declaration :=
  generate_congr settings rfl (Schema.build_respell keeps context declaration)
    (Store.build_respell keeps context declaration) (Form.build_respell keeps context declaration)

/-- A run makes the same report if all properties are read as before. -/
theorem run_respell (settings : Settings) (model : Model) :
    run settings (model.respell change) = run settings model := by
  apply run_mapDeclarations (Declaration.respell change) (fun _ => rfl)
  · change (model.respell change).graph.withoutCircles.order = _
    rw [Model.graph_respell]
  · intro declaration
    change generate settings (Context.ofModel (model.respell change)) _ = _
    rw [Model.context_respell, generate_respell keeps]

end Generation

end Alike

/-- A place for a property in the object of one of the declarations of a model. -/
structure PropertySite where
  before : List Declaration
  name : String
  earlier : List Property
  later : List Property
  typeName : Option String
  dependencies : List String
  exported : Bool
  after : List Declaration
  errors : List String

/-- The model with the property in its place. -/
def PropertySite.model (site : PropertySite) (property : Property) : Model where
  declarations :=
    site.before ++
      ⟨site.name, .object (site.earlier ++ property :: site.later) site.typeName,
        site.dependencies, site.exported⟩ :: site.after
  errors := site.errors

theorem PropertySite.respell_model_eq {change : Property → Property} (site : PropertySite)
    {property other : Property} (same : change property = change other) :
    (site.model property).respell change = (site.model other).respell change := by
  simp only [Model.respell, model, List.map_append, List.map_cons, Declaration.respell,
    TypeNode.respell, same]

namespace Generation

/-- However an optional property of a type is spelled, where the type is neither `undefined` nor
optional itself, every run makes the same report. -/
theorem optional_spellings_run_alike (settings : Settings) (site : PropertySite) {name : String}
    {type : TypeNode} (present : type.isUndefined = false) (required : type.unwrapOptional? = none)
    {first second : Property} (firstMember : first ∈ optionalSpellings name type)
    (secondMember : second ∈ optionalSpellings name type) :
    ∃ report, run settings (site.model first) = .ok report ∧
      run settings (site.model second) = .ok report := by
  obtain ⟨report, ran⟩ := exists_report settings (site.model first)
  refine ⟨report, ran, ?_⟩
  have marked : first.marked = second.marked :=
    (marked_of_mem_optionalSpellings present required firstMember).trans
      (marked_of_mem_optionalSpellings present required secondMember).symm
  -- Both models come to the same one if every optional property is marked.
  calc
    run settings (site.model second)
        = run settings ((site.model second).respell PropertyOf.marked) :=
          (run_respell PropertyOf.marked_readsAs settings (site.model second)).symm
    _ = run settings ((site.model first).respell PropertyOf.marked) := by
          rw [site.respell_model_eq marked]
    _ = run settings (site.model first) :=
          run_respell PropertyOf.marked_readsAs settings (site.model first)
    _ = .ok report := ran

/-- A note of a profile, where a team lists the profiles of its members. -/
def noteSite : PropertySite where
  before := [⟨"Team", .object [⟨"members", .array (some (.reference "Profile")), false⟩] none,
    ["Profile"], true⟩]
  name := "Profile"
  earlier := [⟨"name", .primitive "string", false⟩]
  later := []
  typeName := none
  dependencies := []
  exported := true
  after := []
  errors := []

/-- A nullable note may be marked as optional or have `undefined` in front. -/
theorem nullable_note_run_alike :
    let note := TypeNode.union [.primitive "string", .primitive "null"]
    note.isUndefined = false ∧ note.unwrapOptional? = none ∧
      ∃ report, run Settings.standard (noteSite.model ⟨"note", note, true⟩) = .ok report ∧
        run Settings.standard
          (noteSite.model ⟨"note", .union [.primitive "undefined", note], false⟩) = .ok report :=
  ⟨rfl, rfl, optional_spellings_run_alike Settings.standard noteSite rfl rfl List.mem_cons_self
    (List.mem_cons_of_mem _ (List.mem_cons_of_mem _ List.mem_cons_self))⟩

end Generation

end TypeScaffold
