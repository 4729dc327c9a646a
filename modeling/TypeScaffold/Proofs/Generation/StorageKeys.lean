import TypeScaffold.Proofs.Generation.StoreConstants
import TypeScaffold.Proofs.Text.Blocks
import TypeScaffold.Proofs.Text.SingleQuoted

/-!
# Storage keys

A persisted store has its storage key on the fourth line from its end. Unless a key is set, the key
is made from the name of the declaration in lower case, so two stores of a run share their storage
exactly if their names differ in nothing but case.
-/

namespace TypeScaffold

/-! ## The key in a text -/

/-- What stands before the key on its line, with the opening quote. -/
def keyOpening : List Char :=
  "      name: '".toList

/-- The storage key on a line. -/
def keyOfLine? (line : List Char) : Option String :=
  if keyOpening.isPrefixOf line then
    match Text.readSingle? (line.drop keyOpening.length) with
    | some (key, [',']) => some (String.ofList key)
    | _ => none
  else none

/-- The storage key that stands in the text of a persisted store. -/
def storageKey? (content : String) : Option String :=
  ((Text.splitLines content.toList).reverse[3]?).bind keyOfLine?

/-- The line on which a store has its key. -/
def keyLine (key : String) : String :=
  "      name: " ++ Text.singleQuoted key ++ ","

theorem toList_keyLine (key : String) :
    (keyLine key).toList = keyOpening ++ (key.toList.flatMap Text.escapeSingle ++ ['\'', ',']) := by
  rw [keyLine, String.toList_append, String.toList_append, Text.toList_singleQuoted,
    Text.singleQuotedChars]
  simp only [List.append_assoc, List.cons_append]
  rfl

theorem keyOfLine?_keyLine (key : String) : keyOfLine? (keyLine key).toList = some key := by
  have begins : keyOpening.isPrefixOf (keyLine key).toList = true := by
    rw [toList_keyLine, List.isPrefixOf_iff_prefix]
    exact List.prefix_append _ _
  have read := Text.readSingle?_flatMap key.toList [',']
  rw [keyOfLine?, if_pos begins, toList_keyLine, List.drop_left, read]
  exact congrArg some String.ofList_toList

theorem newline_notMem_keyLine (key : String) : '\n' ∉ (keyLine key).toList := by
  rw [keyLine, String.toList_append, String.toList_append, List.mem_append, List.mem_append]
  rintro ((front | quoted) | last)
  · exact absurd front (by decide)
  · exact Text.newline_notMem_singleQuoted key quoted
  · exact absurd last (by decide)

/-- The lines with which a persisted store ends. -/
def endingLines (key : String) : List String :=
  [keyLine key, "    \x7d", "  )", ")"]

theorem storageKey?_of_endingLines {content : String} {before : List Char} {key : String}
    (ends : content.toList =
      before ++ (endingLines key).flatMap (fun line => '\n' :: line.toList)) :
    storageKey? content = some key := by
  have oneLine : ∀ line ∈ (endingLines key).map String.toList, '\n' ∉ line := by
    rw [endingLines, List.map_cons, List.forall_mem_cons]
    exact ⟨newline_notMem_keyLine key, by decide⟩
  have split := Text.splitLines_append_lines before oneLine
  rw [List.flatMap_map, ← ends] at split
  have last : (Text.splitLines content.toList).reverse[3]? = some (keyLine key).toList := by
    rw [split, List.reverse_append]
    rfl
  rw [storageKey?, last, Option.bind_some, keyOfLine?_keyLine]

/-! ## The text of a store -/

namespace Store

/-- The line that opens the store of a declaration. -/
def openingLine (name : String) : String :=
  "export const " ++ Naming.store name ++ " = create<" ++ Naming.state name ++ " & " ++
    Naming.actions name ++ ">()("

/-- The parts of a store's text before the line that opens the store. -/
def interfaceParts (store : Store) : List String :=
  [r"export interface " ++ Naming.state store.name ++ r" {",
    Text.unlines (store.slots.map slotLine),
    r"}",
    "",
    r"export interface " ++ Naming.actions store.name ++ r" {",
    Text.unlines (store.signatures.map signatureLine),
    r"}",
    "",
    r"export const " ++ Naming.defaultState store.name ++ ": " ++ Naming.state store.name ++ r" = {",
    Text.unlines (store.defaults.map defaultLine),
    r"}",
    ""]

theorem interfaceParts_ne_nil (store : Store) : store.interfaceParts ≠ [] :=
  List.cons_ne_nil _ _

/-- The parts of the text of a store that is not persisted. -/
theorem code_of_forgotten {options : StoreOptions} {store : Store}
    (forgets : options.persist = false) :
    store.code options = Text.unlines (store.interfaceParts ++ [openingLine store.name] ++
      ("  " ++ store.body "  ") :: [")"]) := by
  rw [code, StoreShell.code, shell, forgets]
  rfl

/-- The parts of the text of a persisted store, of which only the end depends on the options. -/
theorem code_of_persisted {options : StoreOptions} {store : Store}
    (persists : options.persist = true) :
    store.code options = Text.unlines (store.interfaceParts ++
      [openingLine store.name, "  persist(", "    " ++ store.body "    " ++ ",", r"    {"] ++
        endingLines (options.keyFor store.name)) := by
  rw [code, StoreShell.code, shell, persists]
  rfl

end Store

/-- The text of a persisted store has the key under which it is kept. -/
theorem storageKey?_code {options : StoreOptions} (persists : options.persist = true)
    (store : Store) : storageKey? (store.code options) = some (options.keyFor store.name) := by
  have filled : store.interfaceParts ++ [Store.openingLine store.name, "  persist(",
      "    " ++ store.body "    " ++ ",", r"    {"] ≠ [] :=
    List.append_ne_nil_of_left_ne_nil store.interfaceParts_ne_nil _
  rw [Store.code_of_persisted persists]
  exact storageKey?_of_endingLines (Text.toList_unlines_append filled _)

/-! ## The stores of a run -/

namespace Generation

section Run

variable {settings : Settings} {model : Model} {report : Report}

theorem pairwise_ofOutcome {declaration identifier : String} {kind : ArtifactKind}
    {outcome : Outcome String} {R : Artifact → Artifact → Prop} :
    (Yield.ofOutcome declaration kind identifier outcome).artifacts.Pairwise R := by
  rw [Yield.ofOutcome]
  dsimp only
  cases outcome.result with
  | none => exact .nil
  | some content => exact List.pairwise_singleton R _

/-- The artifacts of one declaration have different kinds. -/
theorem pairwise_generate (settings : Settings) (context : Context) (declaration : Declaration) :
    (generate settings context declaration).artifacts.Pairwise
      (fun first second => first.kind ≠ second.kind) := by
  rw [generate, artifacts_concat, List.flatMap_map, List.pairwise_flatMap]
  constructor
  · intro kind _
    cases kind with
    | schema => exact pairwise_ofOutcome
    | store => exact pairwise_ofOutcome
    | form => exact pairwise_ofOutcome
  · have apart : ArtifactKind.all.Pairwise (· ≠ ·) := by decide
    refine (apart.filter _).imp ?_
    intro kind other differ first there second thereToo
    rw [(of_mem_generateKind there).2, (of_mem_generateKind thereToo).2]
    exact differ

/-- No two artifacts of a run are of one kind and for one declaration. -/
theorem pairwise_artifacts_apart (ran : run settings model = .ok report) :
    report.artifacts.Pairwise
      (fun first second => first.kind = second.kind → first.declaration ≠ second.declaration) := by
  obtain ⟨names, declarations, sorted, ordered, named, _⟩ := model.exists_ordered
  have distinct : (declarations.map Declaration.name).Nodup := by
    rw [named]
    exact (Graph.extends_of_order sorted).settled.distinct
  have owner : ∀ declaration : Declaration, ∀ artifact ∈
      (generate settings (Context.ofModel model) declaration).artifacts,
      artifact.declaration = declaration.name :=
    fun declaration artifact member => (of_mem_generateKind (mem_generate.mp member).2).1
  rw [artifacts_of_run ran ordered, List.pairwise_flatMap]
  constructor
  · intro declaration _
    exact (pairwise_generate settings _ declaration).imp (fun differ same => absurd same differ)
  · refine (List.pairwise_map.mp distinct).imp ?_
    intro declaration other differ first there second thereToo _
    rw [owner declaration first there, owner other second thereToo]
    exact differ

theorem storageKey?_of_mem {artifact : Artifact} (ran : run settings model = .ok report)
    (persists : settings.persist = true) (member : artifact ∈ report.artifacts)
    (isStore : artifact.kind = .store) :
    storageKey? artifact.content = some (settings.storeOptions.keyFor artifact.declaration) := by
  obtain ⟨_, store, _, equal⟩ := (mem_store_artifacts ran isStore).mp member
  have persistsToo : settings.storeOptions.persist = true := persists
  have key := storageKey?_code persistsToo store
  rw [equal]
  unfold Store.artifact
  dsimp only
  exact key

end Run

theorem ownStorageKey_eq_iff {first second : String} :
    ownStorageKey first = ownStorageKey second ↔ Text.lower first = Text.lower second := by
  rw [ownStorageKey, ownStorageKey, ← String.toList_inj, String.toList_append, String.toList_append,
    List.append_left_inj, String.toList_inj]

/-- Without a set key a run that persists keeps every store under the key of its own name, and no
two stores have one name. The keys of two stores differ exactly if their names differ in lower
case. -/
theorem storage_keys_differ_iff (settings : Settings) (model : Model)
    (persists : settings.persist = true)
    (unset : settings.storageKey = none ∨ settings.storageKey = some "") :
    ∃ report, run settings model = .ok report ∧
      (∀ artifact ∈ report.artifacts, artifact.kind = .store →
        storageKey? artifact.content = some (ownStorageKey artifact.declaration)) ∧
      report.artifacts.Pairwise (fun first second =>
        first.kind = .store → second.kind = .store →
          first.declaration ≠ second.declaration ∧
          (storageKey? first.content ≠ storageKey? second.content ↔
            Text.lower first.declaration ≠ Text.lower second.declaration)) := by
  obtain ⟨report, ran⟩ := exists_report settings model
  have own : ∀ artifact ∈ report.artifacts, artifact.kind = .store →
      storageKey? artifact.content = some (ownStorageKey artifact.declaration) := by
    intro artifact member isStore
    rw [storageKey?_of_mem ran persists member isStore, StoreOptions.keyFor, Settings.storeOptions]
    rcases unset with missing | empty
    · rw [missing]
    · rw [empty]
      rfl
  refine ⟨report, ran, own, ?_⟩
  refine (pairwise_artifacts_apart ran).imp_of_mem ?_
  intro first second member memberToo apart isStore isStoreToo
  refine ⟨apart (isStore.trans isStoreToo.symm), ?_⟩
  rw [own first member isStore, own second memberToo isStoreToo]
  exact not_congr (Option.some_inj.trans ownStorageKey_eq_iff)

/-- Two declarations whose names differ in more than case. -/
def cartModel : Model where
  declarations :=
    [⟨"Cart", .object [⟨"total", .primitive "number", false⟩] none, [], true⟩,
      ⟨"cartItem", .object [⟨"price", .primitive "number", false⟩] none, [], true⟩]
  errors := []

theorem cart_keys_differ :
    Settings.standard.persist = true ∧ Settings.standard.storageKey = none ∧
      ∃ report, run Settings.standard cartModel = .ok report ∧
        report.Emits .store "Cart" ∧ report.Emits .store "cartItem" ∧
        ∀ first ∈ report.artifacts, ∀ second ∈ report.artifacts,
          first.kind = .store → second.kind = .store →
          first.declaration = "Cart" → second.declaration = "cartItem" →
          storageKey? first.content ≠ storageKey? second.content := by
  obtain ⟨report, ran, own, _⟩ :=
    storage_keys_differ_iff Settings.standard cartModel rfl (Or.inl rfl)
  have cart := Model.storeOf?_eq_some_iff.mpr
    ⟨_, (rfl : cartModel.arena.get? "Cart" = some _), rfl, by decide +kernel, rfl⟩
  have item := Model.storeOf?_eq_some_iff.mpr
    ⟨_, (rfl : cartModel.arena.get? "cartItem" = some _), rfl, by decide +kernel, rfl⟩
  refine ⟨rfl, rfl, report, ran, (emits_store_iff ran).mpr ⟨rfl, _, cart⟩,
    (emits_store_iff ran).mpr ⟨rfl, _, item⟩, ?_⟩
  intro first there second thereToo isStore isStoreToo named namedToo
  rw [own first there isStore, own second thereToo isStoreToo, named, namedToo]
  decide +kernel

/-- Two declarations whose names differ in case only. -/
def draftModel : Model where
  declarations :=
    [⟨"Draft", .object [⟨"text", .primitive "string", false⟩] none, [], true⟩,
      ⟨"draft", .object [⟨"count", .primitive "number", false⟩] none, [], true⟩]
  errors := []

theorem drafts_share_storage :
    ∃ report, run Settings.standard draftModel = .ok report ∧
      ∃ first ∈ report.artifacts, ∃ second ∈ report.artifacts,
        first.kind = .store ∧ first.declaration = "Draft" ∧
        second.kind = .store ∧ second.declaration = "draft" ∧
        storageKey? first.content = some "draft-storage" ∧
        storageKey? second.content = some "draft-storage" := by
  obtain ⟨report, ran⟩ := exists_report Settings.standard draftModel
  have upper := Model.storeOf?_eq_some_iff.mpr
    ⟨_, (rfl : draftModel.arena.get? "Draft" = some _), rfl, by decide +kernel, rfl⟩
  have lower := Model.storeOf?_eq_some_iff.mpr
    ⟨_, (rfl : draftModel.arena.get? "draft" = some _), rfl, by decide +kernel, rfl⟩
  obtain ⟨first, there, isStore, named⟩ := (emits_store_iff ran).mpr ⟨rfl, _, upper⟩
  obtain ⟨second, thereToo, isStoreToo, namedToo⟩ := (emits_store_iff ran).mpr ⟨rfl, _, lower⟩
  have key := storageKey?_of_mem ran rfl there isStore
  have keyToo := storageKey?_of_mem ran rfl thereToo isStoreToo
  have shared : Settings.standard.storeOptions.keyFor "Draft" = "draft-storage" ∧
      Settings.standard.storeOptions.keyFor "draft" = "draft-storage" := by decide +kernel
  rw [named, shared.1] at key
  rw [namedToo, shared.2] at keyToo
  exact ⟨report, ran, first, there, second, thereToo, isStore, named, isStoreToo, namedToo, key,
    keyToo⟩

end Generation

end TypeScaffold
