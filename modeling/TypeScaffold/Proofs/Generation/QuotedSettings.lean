import TypeScaffold.Proofs.Generation.StorageKeys
import TypeScaffold.Proofs.Text.ScriptLiterals

/-!
# Labels and keys in generated code

The settings bring two labels into a form and a storage key into a persisted store. Each stands on one
line as a single-quoted literal, and nothing else in the text depends on it. So what can break the form
or the store is what breaks the literal, and that is a carriage return.
-/

namespace TypeScaffold

/-- The lines on which a form has the labels of its buttons. -/
def labelLines (options : FormOptions) : List String :=
  ["  submitLabel = " ++ Text.singleQuoted options.submitLabel ++ ",",
    "  cancelLabel = " ++ Text.singleQuoted options.cancelLabel ++ ","]

theorem FormShell.exists_code_eq_labelLines (shell : FormShell) :
    ∃ front behind, ∀ options : FormOptions,
      { shell with
        submitLabel := Text.singleQuoted options.submitLabel,
        cancelLabel := Text.singleQuoted options.cancelLabel }.code =
          Text.unlines (front ++ labelLines options ++ behind) := by
  refine ⟨shell.headLines.take 10, shell.headLines.drop 12 ++
    ((if shell.lazySchema then shell.lazyValidation else shell.fieldValidation) ++
      (shell.bodyLines ++ (shell.fields.flatMap (fun field => ["", Text.indentBlock 8 field]) ++
        FormShell.tailLines))), ?_⟩
  intro options
  rw [FormShell.code]
  simp only [List.append_assoc]
  rfl

/-- The options decide nothing of a form but its labels. -/
theorem Form.exists_code_eq_labelLines (form : Form) :
    ∃ front behind, ∀ options : FormOptions,
      form.code options = Text.unlines (front ++ labelLines options ++ behind) := by
  obtain ⟨front, behind, equal⟩ := (form.shell .standard).exists_code_eq_labelLines
  refine ⟨front, behind, ?_⟩
  intro options
  rw [← equal]
  rfl

namespace Generation

/-- Between the quotes of a single-quoted text backslashes, quotes and line feeds are replaced, in this
order. Each backslash there begins an escape, each quote belongs to one, and there is no line feed. A
carriage return is there if the text has one; the literal then cannot be read, and in every other case
it is read as the text. The labels of a form and the key of a persisted store stand as such literals at
fixed places, and nothing else depends on them. -/
theorem single_quoted_reads_back_iff (text : String) (form : Form) (store : Store) :
    (∃ body,
      (Text.singleQuoted text).toList = '\'' :: (body ++ ['\'']) ∧
      body = Text.replaceChar '\n' ['\\', 'n'] (Text.replaceChar '\'' ['\\', '\'']
        (Text.replaceChar '\\' ['\\', '\\'] text.toList)) ∧
      '\'' ∉ Text.bare body ∧ '\\' ∉ Text.bare body ∧ '\n' ∉ body ∧
      ('\r' ∈ body ↔ '\r' ∈ text.toList)) ∧
    (∀ behind, Text.readLiteral? ((Text.singleQuoted text).toList ++ behind) =
      if '\r' ∈ text.toList then none else some (text.toList, behind)) ∧
    (∃ front behind, ∀ settings : Settings,
      form.code settings.formOptions =
        Text.unlines (front ++ labelLines settings.formOptions ++ behind)) ∧
    (∃ front, ∀ settings : Settings, settings.persist = true →
      store.code settings.storeOptions =
        Text.unlines (front ++ endingLines (settings.storeOptions.keyFor store.name))) ∧
    ∃ unkept, ∀ settings : Settings, settings.persist = false →
      store.code settings.storeOptions = unkept := by
  refine ⟨?written, Text.readLiteral?_singleQuoted text, ?labels, ?key, ?keyless⟩
  case written =>
    obtain ⟨noQuote, noBackslash⟩ := Text.notMem_bare_escapeSingle text.toList
    exact ⟨text.toList.flatMap Text.escapeSingle, Text.toList_singleQuoted text,
      Text.flatMap_escapeSingle text.toList, noQuote, noBackslash,
      Text.newline_notMem_flatMap_escapeSingle text.toList,
      Text.return_mem_flatMap_escapeSingle_iff⟩
  case labels =>
    obtain ⟨front, behind, equal⟩ := form.exists_code_eq_labelLines
    exact ⟨front, behind, fun settings => equal settings.formOptions⟩
  case key =>
    exact ⟨_, fun _ persists => Store.code_of_persisted persists⟩
  case keyless =>
    exact ⟨_, fun _ forgets => Store.code_of_forgotten forgets⟩

/-- The store of an object without fields. -/
def draftStore : Store :=
  ⟨"Draft", [], [], [], []⟩

/-- The form of an object without fields. -/
def draftForm : Form :=
  ⟨"Draft", false, [], [], []⟩

/-- Settings under which stores are not persisted. -/
def transientSettings : Settings :=
  { Settings.standard with persist := false, storageKey := some "it's kept" }

theorem escaped_text_reads_back :
    '\r' ∉ "it's \\\n".toList ∧
      Text.readLiteral? ((Text.singleQuoted "it's \\\n").toList ++ [',']) =
        some ("it's \\\n".toList, [',']) ∧
      Settings.standard.persist = true ∧
      (∃ front, draftStore.code Settings.standard.storeOptions =
        Text.unlines (front ++ endingLines "draft-storage")) ∧
      transientSettings.persist = false ∧
      draftStore.code transientSettings.storeOptions =
        draftStore.code { transientSettings with storageKey := none }.storeOptions := by
  obtain ⟨_, reads, _, ⟨front, kept⟩, _, dropped⟩ :=
    single_quoted_reads_back_iff "it's \\\n" draftForm draftStore
  have noReturn : '\r' ∉ "it's \\\n".toList := by decide
  have key : Settings.standard.storeOptions.keyFor draftStore.name = "draft-storage" := by
    decide +kernel
  refine ⟨noReturn, ?_, rfl, ⟨front, ?_⟩, rfl, (dropped _ rfl).trans (dropped _ rfl).symm⟩
  · rw [reads, if_neg noReturn]
  · rw [kept _ rfl, key]

/-- A carriage return is not escaped, and the literal that holds it cannot be read. With such a key a
store is written all the same. -/
theorem return_breaks_literal :
    '\r' ∈ (Text.singleQuoted "cart\rdraft").toList ∧
      Text.readLiteral? (Text.singleQuoted "cart\rdraft").toList = none ∧
      ∃ front, draftStore.code ⟨true, some "cart\rdraft"⟩ =
        Text.unlines (front ++ endingLines "cart\rdraft") := by
  have broken := Text.readLiteral?_singleQuoted "cart\rdraft" []
  rw [List.append_nil, if_pos (by decide)] at broken
  exact ⟨by decide, broken, _, Store.code_of_persisted rfl⟩

end Generation

end TypeScaffold
