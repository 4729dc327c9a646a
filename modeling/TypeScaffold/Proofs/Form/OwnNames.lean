import TypeScaffold.Proofs.Generation.FormReliance

/-!
# Names with a meaning of their own in a component

The component of a form uses names besides those that it takes from the store: its own locals, the
schema and the hook of the declaration, and some components and globals. No name that is taken is a
local. The others are not checked, so a field may be called like one of them, and the setter of a
field or the action that appends to it may be called like the schema.
-/

namespace TypeScaffold

open Text

/-- The components and globals that every component uses without declaring them. -/
def outerNames : List String :=
  ["Box", "Stack", "Alert", "Button", "CircularProgress", "Object", "Error"]

/-- The names that the component for a declaration uses and does not take from the store or declare
itself. -/
def usedNames (name : String) : List String :=
  Naming.schema name :: Naming.store name :: outerNames

/-- The names that mean something else in the component of a form than a member of its store. -/
def Form.ownNames (form : Form) : List String :=
  formLocals ++ usedNames form.name

/-! ## Words of a text -/

/-- The text has the word between two characters that no name goes on with. -/
def Text.HasWord (text word : String) : Prop :=
  ∃ front left right rest,
    text = front ++ String.singleton left ++ word ++ (String.singleton right ++ rest) ∧
      left.isAlphanum = false ∧ right.isAlphanum = false

theorem Text.HasWord.unlines {lines : List String} {line word : String}
    (member : line ∈ lines) (there : HasWord line word) : HasWord (Text.unlines lines) word := by
  obtain ⟨front, left, right, rest, words, openLeft, openRight⟩ := there
  obtain ⟨before, after, text, _⟩ := hasLineStart_unlines member String.append_empty.symm
  refine ⟨before ++ front, left, right, rest ++ after, ?_, openLeft, openRight⟩
  rw [text, words]
  simp only [String.append_assoc]

theorem FormShell.hasWord_of_mem {shell : FormShell} {line word : String}
    (member : line ∈ shell.headLines ++ shell.bodyLines ++ tailLines) (there : HasWord line word) :
    HasWord shell.code word := by
  obtain ⟨lines, text, place⟩ := exists_lines_of_mem member
  rw [text]
  exact HasWord.unlines place there

theorem FormShell.hasWord_code (shell : FormShell) {word : String}
    (used : word ∈ shell.schemaName :: shell.storeName :: outerNames) :
    HasWord shell.code word := by
  have schema : HasWord ("    const result = " ++ shell.schemaName ++ ".safeParse(formData)")
      shell.schemaName :=
    ⟨"    const result =", ' ', '.', "safeParse(formData)", rfl, rfl, rfl⟩
  have store : HasWord (r"  const { " ++ ", ".intercalate shell.selectors ++ r" } = " ++
      shell.storeName ++ "()") shell.storeName := by
    have sign : r" } = " = r" } =" ++ String.singleton ' ' := rfl
    have call : "()" = String.singleton '(' ++ ")" := rfl
    refine ⟨r"  const { " ++ ", ".intercalate shell.selectors ++ r" } =", ' ', '(', ")", ?_, rfl, rfl⟩
    rw [sign, call]
    simp only [String.append_assoc]
  have box : HasWord "    </Box>" "Box" := ⟨"    <", '/', '>', "", rfl, rfl, rfl⟩
  have stack : HasWord "      </Stack>" "Stack" := ⟨"      <", '/', '>', "", rfl, rfl, rfl⟩
  have alert : HasWord "          </Alert>" "Alert" := ⟨"          <", '/', '>', "", rfl, rfl, rfl⟩
  have button : HasWord "          </Button>" "Button" := ⟨"          <", '/', '>', "", rfl, rfl, rfl⟩
  have progress : HasWord
      r"            startIcon={isSubmitting ? <CircularProgress size={20} /> : null}"
      "CircularProgress" :=
    ⟨r"            startIcon={isSubmitting ? ", '<', ' ', r"size={20} /> : null}", rfl, rfl, rfl⟩
  have object : HasWord "  const isDirty = Object.keys(touched).length > 0" "Object" :=
    ⟨"  const isDirty =", ' ', '.', "keys(touched).length > 0", rfl, rfl, rfl⟩
  have error : HasWord
      "      setSubmitError(err instanceof Error ? err.message : 'An error occurred')" "Error" :=
    ⟨"      setSubmitError(err instanceof", ' ', ' ', "? err.message : 'An error occurred')", rfl,
      rfl, rfl⟩
  simp only [outerNames, List.mem_cons, List.not_mem_nil, or_false] at used
  rcases used with rfl | rfl | rfl | rfl | rfl | rfl | rfl | rfl | rfl
  · exact hasWord_of_mem (by unfold bodyLines; simp) schema
  · exact hasWord_of_mem (by unfold headLines; simp) store
  · exact hasWord_of_mem (by unfold tailLines; simp) box
  · exact hasWord_of_mem (by unfold tailLines; simp) stack
  · exact hasWord_of_mem (by unfold bodyLines; simp) alert
  · exact hasWord_of_mem (by unfold tailLines; simp) button
  · exact hasWord_of_mem (by unfold tailLines; simp) progress
  · exact hasWord_of_mem (by unfold bodyLines; simp) object
  · exact hasWord_of_mem (by unfold bodyLines; simp) error

/-! ## Names of actions -/

/-- A text that begins in one way and ends in another, where the ending cannot begin inside the
beginning, has the one before the other. -/
theorem Text.append_eq_append_iff_of_notMem {front tail name ending : String} {mark : Char}
    {rest : List Char} (ends : ending.toList = mark :: rest) (fresh : mark ∉ front.toList) :
    front ++ tail = name ++ ending ↔ ∃ stem, name = front ++ stem ∧ tail = stem ++ ending := by
  constructor
  · intro equal
    have chars : front.toList ++ tail.toList = name.toList ++ ending.toList := by
      rw [← String.toList_append, ← String.toList_append, equal]
    rcases List.append_eq_append_iff.mp chars with
      ⟨stem, nameChars, tailChars⟩ | ⟨overlap, frontChars, endingChars⟩
    · refine ⟨String.ofList stem, String.toList_injective ?_, String.toList_injective ?_⟩
      · rw [String.toList_append, String.toList_ofList, nameChars]
      · rw [String.toList_append, String.toList_ofList, tailChars]
    · cases overlap with
      | nil =>
          rw [List.append_nil] at frontChars
          rw [List.nil_append] at endingChars
          refine ⟨"", String.toList_injective ?_, String.toList_injective ?_⟩
          · rw [String.append_empty, frontChars]
          · rw [String.empty_append, endingChars]
      | cons first others =>
          rw [ends, List.cons_append] at endingChars
          obtain ⟨rfl, _⟩ := List.cons.inj endingChars
          exact absurd (frontChars ▸ List.mem_append_right _ List.mem_cons_self) fresh
  · rintro ⟨stem, rfl, rfl⟩
    exact (String.append_assoc ..).symm

/-- What the names of the actions begin with that a form takes from the store. -/
def actionLeads : List String :=
  ["set", "append", "remove", "update", "reset"]

theorem exists_lead_of_mem_usedActions {field : ResolvedProperty} {action : String}
    (member : action ∈ usedActions field) : ∃ lead ∈ actionLeads, ∃ rest, action = lead ++ rest := by
  rw [usedActions] at member
  cases array : field.node.isArray with
  | false =>
      rw [array, if_neg Bool.false_ne_true, List.mem_singleton] at member
      exact ⟨"set", by decide, _, member⟩
  | true =>
      rw [array, if_pos rfl, arraySelectors] at member
      simp only [List.map_cons, List.map_nil, List.mem_cons, List.not_mem_nil, or_false] at member
      rcases member with append | remove | update
      · exact ⟨"append", by decide, _, append⟩
      · exact ⟨"remove", by decide, _, remove.trans (String.append_assoc ..)⟩
      · exact ⟨"update", by decide, _, update.trans (String.append_assoc ..)⟩

theorem lead_append_ne_store {lead : String} (isLead : lead ∈ actionLeads) (rest name : String) :
    lead ++ rest ≠ Naming.store name := by
  have shorter : ∀ lead ∈ actionLeads, ¬ lead.toList <+: "use".toList := by decide
  have longer : ∀ lead ∈ actionLeads, ¬ "use".toList <+: lead.toList := by decide
  have otherwise : ¬ (lead ++ rest).startsWith "use" = true :=
    not_startsWith_append (shorter lead isLead) (longer lead isLead)
  intro same
  apply otherwise
  rw [same, Naming.store, String.append_assoc]
  exact startsWith_append _ _

theorem lead_append_notMem_outerNames {lead : String} (isLead : lead ∈ actionLeads)
    (rest : String) : lead ++ rest ∉ outerNames := by
  have different : ∀ lead ∈ actionLeads, ∀ word ∈ outerNames, ¬ lead.toList <+: word.toList := by
    decide
  intro there
  apply different lead isLead (lead ++ rest) there
  rw [String.toList_append]
  exact List.prefix_append _ _

/-- Only the setter of a field that is no array and the action that appends to an array can be called
like a schema, namely that of a declaration whose name begins like the action. -/
theorem schema_mem_usedActions_iff {field : ResolvedProperty} {name : String} :
    Naming.schema name ∈ usedActions field ↔
      ∃ stem, name = (if field.node.isArray then "append" else "set") ++ stem ∧
        capitalize field.name = stem ++ "Schema" := by
  have ends : "Schema".toList = 'S' :: "chema".toList := by decide
  rw [usedActions]
  cases field.node.isArray with
  | false =>
      rw [if_neg Bool.false_ne_true, if_neg Bool.false_ne_true, List.mem_singleton, eq_comm]
      exact append_eq_append_iff_of_notMem ends (by decide)
  | true =>
      have otherwise (front : String) : Naming.schema name ≠ front ++ "At" := by
        have ending : ¬ (front ++ "At").endsWith "Schema" = true :=
          not_endsWith_append (by decide) (by decide)
        intro same
        apply ending
        rw [← same]
        exact endsWith_append name "Schema"
      have append : Naming.schema name = "append" ++ capitalize field.name ↔
          ∃ stem, name = "append" ++ stem ∧ capitalize field.name = stem ++ "Schema" := by
        rw [eq_comm]
        exact append_eq_append_iff_of_notMem ends (by decide)
      rw [if_pos rfl, if_pos rfl, ← append, arraySelectors]
      simp only [List.map_cons, List.map_nil, List.mem_cons, List.not_mem_nil, or_false]
      constructor
      · rintro (same | remove | update)
        · exact same
        · exact absurd remove (otherwise _)
        · exact absurd update (otherwise _)
      · exact Or.inl

theorem reset_ne_schema (name : String) : Naming.reset name ≠ Naming.schema name := by
  intro same
  have lengths := congrArg String.length same
  rw [Naming.reset, Naming.schema, String.length_append, String.length_append] at lengths
  have five : "reset".length = 5 := by decide
  have six : "Schema".length = 6 := by decide
  omega

/-! ## Names that are taken from the store -/

/-- A form of the declaration would take a name from the store that its component uses otherwise: a
field is called so, or an action is called like the schema. -/
def Declaration.ShadowsUsedName (declaration : Declaration) : Prop :=
  (∃ field ∈ declaration.fields, field.resolved.name ∈ usedNames declaration.name) ∨
    ∃ field ∈ declaration.fields, ∃ stem,
      declaration.name = (if field.resolved.node.isArray then "append" else "set") ++ stem ∧
        capitalize field.resolved.name = stem ++ "Schema"

theorem lead_append_mem_usedNames_iff {lead : String} (isLead : lead ∈ actionLeads)
    (rest name : String) : lead ++ rest ∈ usedNames name ↔ Naming.schema name = lead ++ rest := by
  have noHook := lead_append_ne_store isLead rest name
  have noGlobal := lead_append_notMem_outerNames isLead rest
  rw [usedNames, List.mem_cons, List.mem_cons, eq_comm]
  simp only [noHook, noGlobal, or_false]

theorem Declaration.exists_selector_mem_usedNames_iff (declaration : Declaration) :
    (∃ name ∈ declaration.selectors, name ∈ usedNames declaration.name) ↔
      declaration.ShadowsUsedName := by
  have reset : Naming.reset declaration.name ∉ usedNames declaration.name := by
    have isLead : "reset" ∈ actionLeads := by decide
    rw [Naming.reset, lead_append_mem_usedNames_iff isLead]
    exact (reset_ne_schema declaration.name).symm
  constructor
  · rintro ⟨name, member, used⟩
    rcases mem_selectors.mp member with ⟨field, there, rfl⟩ | rfl | ⟨field, there, action⟩
    · exact Or.inl ⟨field, there, used⟩
    · exact absurd used reset
    · obtain ⟨lead, isLead, rest, rfl⟩ := exists_lead_of_mem_usedActions action
      rw [← (lead_append_mem_usedNames_iff isLead rest _).mp used] at action
      exact Or.inr ⟨field, there, schema_mem_usedActions_iff.mp action⟩
  · rintro (⟨field, there, used⟩ | ⟨field, there, called⟩)
    · exact ⟨_, mem_selectors.mpr (Or.inl ⟨field, there, rfl⟩), used⟩
    · have action := schema_mem_usedActions_iff.mpr called
      exact ⟨_, mem_selectors.mpr (Or.inr (Or.inr ⟨field, there, action⟩)), List.mem_cons_self⟩

/-- No name that a form takes from the store is a local of its component. The other names with a
meaning of their own stand in the component too, and the form takes none of them exactly if no field
is called like one and no setter or appending action is called like the schema. -/
theorem Form.selectors_apart_iff {context : Context} {declaration : Declaration} {form : Form}
    (made : (build context declaration).result = some form) :
    (∀ name ∈ form.selectors, name ∉ formLocals) ∧
    (∀ options, ∀ word ∈ usedNames form.name, HasWord (form.code options) word) ∧
    ((∀ name ∈ form.selectors, name ∉ form.ownNames) ↔ ¬ declaration.ShadowsUsedName) := by
  obtain ⟨_, _, apart, rfl⟩ := result_build_eq_some_iff.mp made
  refine ⟨apart, ?_, ?_⟩
  · intro options word used
    exact FormShell.hasWord_code _ used
  · rw [← declaration.exists_selector_mem_usedNames_iff, not_exists]
    simp only [not_and]
    constructor
    · intro foreign name member used
      exact foreign name member (List.mem_append_right _ used)
    · intro unused name member own
      rcases List.mem_append.mp own with isLocal | used
      · exact apart name member isLocal
      · exact unused name member used

def ticketDeclaration : Declaration where
  name := "Ticket"
  type := .object [⟨"price", .primitive "number", false⟩,
    ⟨"seats", .array (some (.primitive "string")), true⟩] none
  dependencies := []
  exported := true

theorem ticket_selectors_apart :
    ∃ form, (Form.build ⟨[], [], []⟩ ticketDeclaration).result = some form ∧
      (∀ name ∈ form.selectors, name ∉ form.ownNames) ∧ ¬ ticketDeclaration.ShadowsUsedName ∧
      HasWord (form.code FormOptions.standard) "useTicketStore" := by
  have distinct : ticketDeclaration.members.Nodup := by decide +kernel
  have apart : ∀ name ∈ ticketDeclaration.selectors, name ∉ formLocals := by decide +kernel
  have made : (Form.build ⟨[], [], []⟩ ticketDeclaration).result = some _ :=
    Form.result_build_eq_some_iff.mpr ⟨rfl, distinct, apart, rfl⟩
  obtain ⟨_, words, apartIff⟩ := Form.selectors_apart_iff made
  have foreign : ∀ name ∈ ticketDeclaration.selectors,
      name ∉ formLocals ++ usedNames ticketDeclaration.name := by
    decide +kernel
  exact ⟨_, made, foreign, apartIff.mp foreign, words _ _ (by decide +kernel)⟩

def crateDeclaration : Declaration where
  name := "Crate"
  type := .object [⟨"Box", .primitive "string", false⟩] none
  dependencies := []
  exported := true

/-- The form of the crate binds `Box` to a field, and its markup uses the component of that name. -/
theorem crate_selector_shadows_box :
    ∃ form, (Form.build ⟨[], [], []⟩ crateDeclaration).result = some form ∧
      "Box" ∈ form.selectors ∧ "Box" ∈ form.ownNames ∧
      HasLineStart (form.code FormOptions.standard)
        r"  const { Box, setBox, resetCrate } = useCrateStore()" ∧
      HasLineStart (form.code FormOptions.standard) "    </Box>" := by
  have distinct : crateDeclaration.members.Nodup := by decide +kernel
  have apart : ∀ name ∈ crateDeclaration.selectors, name ∉ formLocals := by decide +kernel
  have made : (Form.build ⟨[], [], []⟩ crateDeclaration).result = some _ :=
    Form.result_build_eq_some_iff.mpr ⟨rfl, distinct, apart, rfl⟩
  have shadowed : "Box" ∈ crateDeclaration.selectors := by decide +kernel
  have used : "Box" ∈ formLocals ++ usedNames crateDeclaration.name := by decide +kernel
  have binding : ((Form.ofFields ⟨[], [], []⟩ crateDeclaration.name
      (crateDeclaration.fields.map FieldSource.resolved)).shell
        FormOptions.standard).selectorLine =
      r"  const { Box, setBox, resetCrate } = useCrateStore()" := by
    decide +kernel
  have element : "    </Box>" ∈ FormShell.tailLines := by
    unfold FormShell.tailLines
    simp
  refine ⟨_, made, shadowed, used, ?_, ?_⟩
  · have taken := ((Form.ofFields ⟨[], [], []⟩ crateDeclaration.name
      (crateDeclaration.fields.map FieldSource.resolved)).shell
        FormOptions.standard).hasLineStart_selectorLine
    rw [binding] at taken
    exact taken
  · exact FormShell.hasLineStart_of_mem (List.mem_append_right _ element)

end TypeScaffold
