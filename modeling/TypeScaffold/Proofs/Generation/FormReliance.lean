import TypeScaffold.Form.Render
import TypeScaffold.Proofs.Form.Build
import TypeScaffold.Proofs.Validator.Schema
import TypeScaffold.Store.Render

/-!
# What a form relies on

The component of a form calls the store and the schema of the declaration by their names. Where there
is a form, there are both, and the names that the component takes from the store are defined there.
Where there is a store, a form is missing only for the names that it would take.
-/

namespace TypeScaffold

open Text

/-! ## The module of a store -/

/-- The store defines the name, as a part of its state or as an action. -/
def Store.Defines (store : Store) (name : String) : Prop :=
  (name ∈ store.slots.map SlotOf.name ∧ name ∈ store.defaults.map Prod.fst) ∨
    (name ∈ store.signatures.map Signature.member ∧ name ∈ store.methods.map Method.member)

theorem Store.defines_of_mem_members {declaration : Declaration} {name : String}
    (member : name ∈ declaration.members) (arena : Keyed Declaration) :
    (ofFields declaration.name arena declaration.fields).Defines name := by
  rw [Defines, names_slots, names_defaults, members_signatures, members_methods,
    Declaration.names_fields]
  rcases List.mem_append.mp member with field | action
  · exact Or.inl ⟨field, field⟩
  · exact Or.inr ⟨action, action⟩

theorem StoreShell.exports_code (shell : StoreShell) : Exports shell.code shell.storeName := by
  have marked : " = create<" = " = " ++ "create<" := rfl
  have line : "export const " ++ shell.storeName ++ " = create<" ++ shell.stateName ++ " & " ++
      shell.actionsName ++ ">()(" =
        "export const " ++ shell.storeName ++ " = " ++
          ("create<" ++ (shell.stateName ++ (" & " ++ (shell.actionsName ++ ">()(")))) := by
    simp only [marked, String.append_assoc]
  refine Or.inl (hasLineStart_unlines ?_ line)
  exact List.mem_append_left _ (List.mem_append_left _ (by simp))

theorem Store.exports_code (options : StoreOptions) (store : Store) :
    Exports (store.code options) (Naming.store store.name) :=
  (store.shell options).exports_code

/-! ## The component of a form -/

namespace FormShell

/-- How the component validates a single field. -/
def validation (shell : FormShell) : List String :=
  if shell.lazySchema then shell.lazyValidation else shell.fieldValidation

/-- The line that looks a field up in the schema. -/
def shapeLine (shell : FormShell) : String :=
  "    const fieldSchema = " ++ shell.schemaName ++ ".shape[field as keyof typeof " ++
    shell.schemaName ++ ".shape]"

/-- The line that takes names from the store. -/
def selectorLine (shell : FormShell) : String :=
  r"  const { " ++ ", ".intercalate shell.selectors ++ r" } = " ++ shell.storeName ++ "()"

theorem selectorLine_mem_headLines (shell : FormShell) : shell.selectorLine ∈ shell.headLines := by
  unfold selectorLine headLines
  simp

theorem shapeLine_mem_validation_iff (shell : FormShell) :
    shell.shapeLine ∈ shell.validation ↔ shell.lazySchema = false := by
  rw [validation]
  cases shell.lazySchema with
  | false => exact iff_of_true (List.mem_cons_of_mem _ List.mem_cons_self) rfl
  | true =>
      refine iff_of_false ?_ (by decide)
      have others : ∀ line ∈ shell.lazyValidation, line.toList.take 11 ≠ "    const f".toList := by
        simp [lazyValidation]
      have long : 11 ≤ "    const fieldSchema = ".toList.length := by decide
      have cut : "    const fieldSchema = ".toList.take 11 = "    const f".toList := by decide
      have start : shell.shapeLine.toList.take 11 = "    const f".toList := by
        unfold shapeLine
        simp only [String.toList_append, List.append_assoc]
        rw [List.take_append_of_le_length long, cut]
      intro member
      exact others shell.shapeLine member start

theorem exists_lines_of_mem {shell : FormShell} {line : String}
    (member : line ∈ shell.headLines ++ shell.bodyLines ++ tailLines) :
    ∃ lines, shell.code = unlines lines ∧ line ∈ lines := by
  refine ⟨_, rfl, ?_⟩
  simp only [List.mem_append] at member ⊢
  rcases member with (head | body) | tail
  · exact Or.inl (Or.inl (Or.inl (Or.inl head)))
  · exact Or.inl (Or.inl (Or.inr body))
  · exact Or.inr tail

theorem hasLineStart_of_mem {shell : FormShell} {line : String}
    (member : line ∈ shell.headLines ++ shell.bodyLines ++ tailLines) :
    HasLineStart shell.code line := by
  obtain ⟨lines, text, place⟩ := exists_lines_of_mem member
  rw [text]
  exact hasLineStart_unlines place String.append_empty.symm

theorem hasLineStart_selectorLine (shell : FormShell) :
    HasLineStart shell.code shell.selectorLine :=
  hasLineStart_of_mem (List.mem_append_left _
    (List.mem_append_left _ shell.selectorLine_mem_headLines))

theorem exists_code_eq_unlines (shell : FormShell) :
    ∃ behind, shell.code = unlines (shell.headLines ++ shell.validation ++ behind) := by
  refine ⟨shell.bodyLines ++ (shell.fields.flatMap (fun field => ["", indentBlock 8 field]) ++
    tailLines), ?_⟩
  simp only [code, validation, List.append_assoc]

/-- The component calls the store and the schema by the names that their texts export, and looks
single fields up in the schema just when that is written as a plain object. -/
structure IsServedBy (shell : FormShell) (storeText schemaText : String) : Prop where
  exportsStore : Exports storeText shell.storeName
  exportsSchema : Exports schemaText shell.schemaName
  takesNames : HasLineStart shell.code shell.selectorLine
  validates : ∃ behind, shell.code = unlines (shell.headLines ++ shell.validation ++ behind)
  looksUp : shell.shapeLine ∈ shell.validation ↔
    schemaText.startsWith ("export const " ++ shell.schemaName ++ " = z.object(") = true

end FormShell

/-! ## What is there where there is a form -/

namespace Form

theorem exists_result_build_iff {context : Context} {declaration : Declaration} :
    (∃ form, (build context declaration).result = some form) ↔
      (∃ store, (Store.build context declaration).result = some store) ∧
        ∀ name ∈ declaration.selectors, name ∉ formLocals := by
  simp only [result_build_eq_some_iff, Store.result_build_eq_some_iff]
  constructor
  · rintro ⟨_, stored, distinct, apart, _⟩
    exact ⟨⟨_, stored, distinct, rfl⟩, apart⟩
  · rintro ⟨⟨_, stored, distinct, _⟩, apart⟩
    exact ⟨_, stored, distinct, apart, rfl⟩

/-- A declaration has a form just when it has a store and the form takes no name from it that the
component uses itself. It then has a schema as well. The form takes each name once and only names that
the store defines, and with whatever options its component is served by the two. -/
theorem relies_on_generated (context : Context) (declaration : Declaration) :
    ((∃ form, (build context declaration).result = some form) ↔
      (∃ store, (Store.build context declaration).result = some store) ∧
        ∀ name ∈ declaration.selectors, name ∉ formLocals) ∧
    ∀ form, (build context declaration).result = some form →
      ∃ store schema,
        (Store.build context declaration).result = some store ∧
        (Schema.build context declaration).result = some schema ∧
        form.selectors.Nodup ∧ (∀ name ∈ form.selectors, store.Defines name) ∧
        ∀ (options : FormOptions) (storeOptions : StoreOptions),
          form.code options = (form.shell options).code ∧
          (form.shell options).selectors = form.selectors ∧
          (form.shell options).IsServedBy (store.code storeOptions) schema.code := by
  refine ⟨exists_result_build_iff, ?_⟩
  intro form made
  obtain ⟨stored, distinct, _, rfl⟩ := result_build_eq_some_iff.mp made
  obtain ⟨exported, properties, typeName, root⟩ := Declaration.hasStore_iff.mp stored
  have store : (Store.build context declaration).result = some _ :=
    Store.result_build_eq_some_iff.mpr ⟨stored, distinct, rfl⟩
  let schema : Schema := ⟨declaration.name, context.isRecursive declaration.name,
    .object (properties.map (fun property => (property.name, Validator.ofProperty property)))⟩
  have schemaMade := Schema.result_build_of_object context exported root
  refine ⟨_, schema, store, schemaMade, Declaration.nodup_selectors distinct, ?_, ?_⟩
  · intro name member
    exact Store.defines_of_mem_members (declaration.selectors_subperm.subset member) context.arena
  · intro options storeOptions
    let shell := (ofFields context declaration.name
      (declaration.fields.map FieldSource.resolved)).shell options
    have plain : schema.code.startsWith
        ("export const " ++ shell.schemaName ++ " = z.object(") = true ↔ shell.lazySchema = false :=
      schema.startsWith_plain_iff rfl
    exact ⟨rfl, rfl, Store.exports_code storeOptions _, schema.exports_code,
      shell.hasLineStart_selectorLine, shell.exists_code_eq_unlines,
      shell.shapeLine_mem_validation_iff.trans plain.symm⟩

/-- An article with an optional list of tags. -/
def articleDeclaration : Declaration where
  name := "Article"
  type := .object [⟨"title", .primitive "string", false⟩,
    ⟨"tags", .array (some (.primitive "string")), true⟩] none
  dependencies := []
  exported := true

/-- The form of the article is there and takes three actions on the tags but not their setter. -/
theorem article_form_is_served :
    ∃ form store schema,
      (build ⟨[], [], []⟩ articleDeclaration).result = some form ∧
      (Store.build ⟨[], [], []⟩ articleDeclaration).result = some store ∧
      form.selectors = ["title", "tags", "setTitle", "appendTags", "removeTagsAt", "updateTagsAt",
        "resetArticle"] ∧
      (∀ name ∈ form.selectors, store.Defines name) ∧
      (form.shell FormOptions.standard).IsServedBy (store.code StoreOptions.standard)
        (Schema.code schema) := by
  obtain ⟨forms, served⟩ := relies_on_generated ⟨[], [], []⟩ articleDeclaration
  have stored : articleDeclaration.hasStore = true := rfl
  have distinct : articleDeclaration.members.Nodup := by decide +kernel
  have apart : ∀ name ∈ articleDeclaration.selectors, name ∉ formLocals := by decide +kernel
  have taken : articleDeclaration.selectors = ["title", "tags", "setTitle", "appendTags",
      "removeTagsAt", "updateTagsAt", "resetArticle"] := by
    decide +kernel
  obtain ⟨form, made⟩ := forms.mpr
    ⟨⟨_, Store.result_build_eq_some_iff.mpr ⟨stored, distinct, rfl⟩⟩, apart⟩
  obtain ⟨store, schema, madeStore, _, _, defines, serves⟩ := served form made
  obtain ⟨_, _, serving⟩ := serves FormOptions.standard StoreOptions.standard
  obtain ⟨_, _, _, rfl⟩ := result_build_eq_some_iff.mp made
  exact ⟨_, store, schema, made, madeStore, taken, defines, serving⟩

end Form

end TypeScaffold
