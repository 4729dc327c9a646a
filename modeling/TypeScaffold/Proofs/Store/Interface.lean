import TypeScaffold.Proofs.NameSet
import TypeScaffold.Proofs.Store.Fields
import TypeScaffold.Proofs.Text.Blocks
import TypeScaffold.Store.Render

/-!
# The members of a store

A store declares each of its members in one of its two interfaces. The fields have an initial value
each, and the actions an implementation each, in the order of the interfaces. An exported object whose
members would not have distinct names gets no store, and the report lists the names that come again.
-/

namespace TypeScaffold

open Text

namespace Store

/-! ## Lines of the interfaces -/

theorem isEntry_slotLine (slot : Slot) : IsEntry slot.name (slotLine slot) := by
  have mark : "?" ++ ": " = "?: " := rfl
  refine ⟨slot.type.code, ?_⟩
  rw [slotLine]
  cases slot.optional with
  | true =>
      right
      simp only [if_true, String.append_assoc, ← mark]
  | false =>
      left
      simp only [Bool.false_eq_true, if_false, String.append_empty]

theorem isEntry_signatureLine (signature : Signature) :
    IsEntry signature.member (signatureLine signature) :=
  ⟨signature.type, Or.inl rfl⟩

theorem isEntry_defaultLine (entry : String × Initial) : IsEntry entry.1 (defaultLine entry) :=
  ⟨entry.2.code ++ ",", Or.inl (String.append_assoc ..)⟩

/-! ## Lines of an implementation -/

/-- The line goes on with what an entry has begun: it stands further in or closes a bracket. -/
def Continues (line : String) : Prop :=
  ∃ rest, line = "    " ++ rest ∨ line = r"  }" ++ rest

/-- The lines are one entry under the name. -/
def IsImplementation (name : String) (lines : List String) : Prop :=
  ∃ first rest, lines = first :: rest ∧ IsEntry name first ∧ ∀ line ∈ rest, Continues line

theorem Continues.append {line : String} (continued : Continues line) (behind : String) :
    Continues (line ++ behind) := by
  obtain ⟨rest, inner | closing⟩ := continued
  · exact ⟨rest ++ behind, Or.inl (by rw [inner, String.append_assoc])⟩
  · exact ⟨rest ++ behind, Or.inr (by rw [closing, String.append_assoc])⟩

theorem continues_tail_method (field : ArrayField) (action : ArrayAction) :
    ∀ line ∈ (action.method field).tail, Continues ("  " ++ line) := by
  have copied : Continues ("  " ++ ArrayAction.copyLine field) := by
    have begun : Continues ("  " ++ r"  const next = [...") := ⟨r"const next = [...", Or.inl rfl⟩
    have text : ArrayAction.copyLine field = r"  const next = [..." ++ field.current ++ "]" := rfl
    rw [text, ← String.append_assoc, ← String.append_assoc]
    exact (begun.append _).append _
  have returned : Continues ("  " ++ ArrayAction.returnLine field) := by
    have begun : Continues ("  " ++ r"  return { ") := ⟨r"return { ", Or.inl rfl⟩
    rw [ArrayAction.returnLine, ← String.append_assoc, ← String.append_assoc]
    exact (begun.append _).append _
  have filtered (test : String) :
      Continues ("  " ++ ("  " ++ field.name ++ ": " ++ field.current ++ test)) := by
    have begun : Continues ("  " ++ "  ") := ⟨"", Or.inl rfl⟩
    simp only [← String.append_assoc]
    exact (((begun.append _).append _).append _).append _
  have closed : Continues ("  " ++ r"})") := ⟨")", Or.inr rfl⟩
  have closedTwice : Continues ("  " ++ r"}))") := ⟨"))", Or.inr rfl⟩
  cases action with
  | prepend | append | clear =>
      intro line member
      cases member
  | insertAt =>
      have inserted : Continues ("  " ++ "  next.splice(index, 0, item)") :=
        ⟨"next.splice(index, 0, item)", Or.inl rfl⟩
      simp only [ArrayAction.method, List.forall_mem_cons]
      exact ⟨copied, inserted, returned, closed, List.forall_mem_nil _⟩
  | removeAt | removeWhere =>
      simp only [ArrayAction.method, List.forall_mem_cons]
      exact ⟨filtered _, closedTwice, List.forall_mem_nil _⟩
  | move =>
      have taken : Continues ("  " ++ "  const [item] = next.splice(fromIndex, 1)") :=
        ⟨"const [item] = next.splice(fromIndex, 1)", Or.inl rfl⟩
      have inserted : Continues ("  " ++ "  next.splice(toIndex, 0, item)") :=
        ⟨"next.splice(toIndex, 0, item)", Or.inl rfl⟩
      simp only [ArrayAction.method, List.forall_mem_cons]
      exact ⟨copied, taken, inserted, returned, closed, List.forall_mem_nil _⟩
  | updateAt =>
      simp only [ArrayAction.method, List.cons_append, List.forall_mem_cons, List.forall_mem_append]
      refine ⟨copied, ?_, returned, closed, List.forall_mem_nil _⟩
      cases field.merges with
      | true =>
          simp only [if_true, List.forall_mem_cons]
          exact ⟨⟨"const current = next[index]", Or.inl rfl⟩,
            ⟨"next[index] = typeof update === 'function'", Or.inl rfl⟩,
            ⟨"  ? update(current)", Or.inl rfl⟩, ⟨r"  : { ...current, ...update }", Or.inl rfl⟩,
            List.forall_mem_nil _⟩
      | false =>
          simp only [Bool.false_eq_true, if_false, List.forall_mem_cons]
          exact ⟨⟨"next[index] = typeof update === 'function' ? update(next[index]) : update",
            Or.inl rfl⟩, List.forall_mem_nil _⟩

/-- The lines of an implementation are one entry if those below the first go on with it. -/
theorem isImplementation_methodLines {method : Method}
    (continued : ∀ line ∈ method.tail, Continues ("  " ++ line)) :
    IsImplementation method.member ((methodLines method).map ("  " ++ ·)) := by
  obtain ⟨member, head, tail⟩ := method
  rcases List.eq_nil_or_concat tail with rfl | ⟨inner, last, rfl⟩
  · refine ⟨"  " ++ (member ++ ": " ++ head ++ ","), [], rfl, ⟨head ++ ",", Or.inl ?_⟩,
      List.forall_mem_nil _⟩
    simp only [String.append_assoc]
  · rw [List.concat_eq_append] at continued
    have lines : methodLines ⟨member, head, inner.concat last⟩ =
        (member ++ ": " ++ head) :: inner ++ [last ++ ","] := by
      rw [methodLines, List.concat_eq_append, ← List.cons_append, List.dropLast_concat,
        List.getLast?_concat]
      rfl
    rw [lines, List.cons_append, List.map_cons, List.map_append]
    refine ⟨_, _, rfl, ⟨head, Or.inl ?_⟩, ?_⟩
    · simp only [String.append_assoc]
    · intro line there
      rcases List.mem_append.mp there with before | final
      · obtain ⟨below, belowMember, rfl⟩ := List.mem_map.mp before
        exact continued below (List.mem_append_left _ belowMember)
      · obtain rfl := List.mem_singleton.mp final
        have ended := (continued last (List.mem_append_right _ List.mem_cons_self)).append ","
        rwa [String.append_assoc] at ended

theorem continues_of_mem_methods {name : String} {arena : Keyed Declaration}
    {fields : List FieldSource} {method : Method}
    (member : method ∈ (ofFields name arena fields).methods) :
    ∀ line ∈ method.tail, Continues ("  " ++ line) := by
  have single : ∀ line ∈ ([] : List String), Continues ("  " ++ line) := List.forall_mem_nil _
  rcases List.mem_cons.mp member with rfl | others
  · exact single
  rcases List.mem_cons.mp others with rfl | ofField
  · exact single
  obtain ⟨field, _, there⟩ := List.mem_flatMap.mp ofField
  rcases List.mem_cons.mp there with rfl | ofArray
  · exact single
  cases node : field.resolved.node with
  | array element =>
      rw [node] at ofArray
      obtain ⟨action, _, rfl⟩ := List.mem_map.mp ofArray
      exact continues_tail_method _ action
  | _ =>
      rw [node] at ofArray
      cases ofArray

/-! ## The module of a store -/

/-- The text is that of a module that declares the members in two interfaces, gives each field an
initial value and implements each action once, after the initial state. -/
structure IsWrittenIn (store : Store) (text : String) : Prop where
  state : HasBlock text (r"export interface " ++ Naming.state store.name ++ r" {")
    (store.slots.map SlotOf.name)
  actions : HasBlock text (r"export interface " ++ Naming.actions store.name ++ r" {")
    (store.signatures.map Signature.member)
  initial : HasBlock text (r"export const " ++ Naming.defaultState store.name ++ ": " ++
    Naming.state store.name ++ r" = {") (store.slots.map SlotOf.name)
  body : ∃ margin entries,
    HasLineStart text (unlines (([r"(set) => ({", "  ..." ++ Naming.defaultState store.name ++ ","] ++
      entries.flatten ++ [r"})"]).map (margin ++ ·))) ∧
    List.Forall₂ IsImplementation (store.signatures.map Signature.member) entries

private theorem margin_append_intercalate (margin line : String) (lines : List String) :
    margin ++ ("\n" ++ margin).intercalate (line :: lines) =
      unlines ((line :: lines).map (margin ++ ·)) := by
  induction lines generalizing line with
  | nil => simp only [String.intercalate_singleton, unlines, List.map_cons, List.map_nil]
  | cons next rest inductionHypothesis =>
      have more : next :: rest ≠ [] := List.cons_ne_nil _ _
      have moreToo : (next :: rest).map (margin ++ ·) ≠ [] := List.cons_ne_nil _ _
      rw [List.map_cons, unlines, String.intercalate_cons_of_ne_nil more,
        String.intercalate_cons_of_ne_nil moreToo, ← unlines, ← inductionHypothesis next]
      simp only [String.append_assoc]

theorem margin_append_body (store : Store) (margin : String) :
    margin ++ store.body margin = unlines (store.bodyLines.map (margin ++ ·)) := by
  rw [body, bodyLines, List.cons_append]
  exact margin_append_intercalate margin _ _

theorem bodyLines_eq (store : Store) :
    store.bodyLines =
      [r"(set) => ({", "  ..." ++ Naming.defaultState store.name ++ ","] ++
        (store.methods.map (fun method => (methodLines method).map ("  " ++ ·))).flatten ++
        [r"})"] := by
  have spread : "  " ++ ("..." ++ Naming.defaultState store.name ++ ",") =
      "  ..." ++ Naming.defaultState store.name ++ "," := by
    simp only [← String.append_assoc]
    rfl
  rw [bodyLines, List.map_cons, List.map_flatMap, List.flatMap_def, spread]
  rfl

end Store

namespace StoreShell

variable (shell : StoreShell)

theorem exists_code_state : ∃ front behind, shell.code = unlines (front ++
    [r"export interface " ++ shell.stateName ++ r" {", shell.stateFields, r"}"] ++ behind) :=
  ⟨[], _, rfl⟩

theorem exists_code_actions : ∃ front behind, shell.code = unlines (front ++
    [r"export interface " ++ shell.actionsName ++ r" {", shell.actionSignatures, r"}"] ++ behind) :=
  ⟨[_, _, _, _], _, rfl⟩

theorem exists_code_initial : ∃ front behind, shell.code = unlines (front ++
    [r"export const " ++ shell.defaultName ++ ": " ++ shell.stateName ++ r" = {",
      shell.defaultFields, r"}"] ++ behind) :=
  ⟨[_, _, _, _, _, _, _, _], _, rfl⟩

theorem hasLineStart_body : HasLineStart shell.code
    ((if shell.storageKey.isSome then "    " else "  ") ++ shell.storeBody) := by
  unfold code
  cases shell.storageKey with
  | none =>
      refine hasLineStart_unlines ?_ String.append_empty.symm
      exact List.mem_append_left _ (List.mem_append_right _ List.mem_cons_self)
  | some key =>
      have line : "    " ++ shell.storeBody ++ "," = ("    " ++ shell.storeBody) ++ "," := rfl
      refine hasLineStart_unlines ?_ line
      exact List.mem_append_left _
        (List.mem_append_right _ (List.mem_cons_of_mem _ List.mem_cons_self))

end StoreShell

namespace Store

theorem isWrittenIn_code
    (name : String) (arena : Keyed Declaration) (fields : List FieldSource)
    (options : StoreOptions) :
    (ofFields name arena fields).IsWrittenIn ((ofFields name arena fields).code options) := by
  generalize made : ofFields name arena fields = store
  have sameNames : store.slots.map SlotOf.name = store.defaults.map Prod.fst := by
    rw [← made, names_slots, names_defaults]
  have sameMembers : store.signatures.map Signature.member = store.methods.map Method.member := by
    rw [← made, members_signatures, members_methods]
  have continued : ∀ method ∈ store.methods, ∀ line ∈ method.tail, Continues ("  " ++ line) := by
    intro method member
    exact continues_of_mem_methods (made ▸ member)
  constructor
  case state =>
    obtain ⟨front, behind, text⟩ := (store.shell options).exists_code_state
    rw [code, text]
    exact hasBlock_unlines isEntry_slotLine front _ store.slots behind
  case actions =>
    obtain ⟨front, behind, text⟩ := (store.shell options).exists_code_actions
    rw [code, text]
    exact hasBlock_unlines isEntry_signatureLine front _ store.signatures behind
  case initial =>
    obtain ⟨front, behind, text⟩ := (store.shell options).exists_code_initial
    rw [code, text, sameNames]
    exact hasBlock_unlines isEntry_defaultLine front _ store.defaults behind
  case body =>
    have starts := (store.shell options).hasLineStart_body
    refine ⟨if options.persist then "    " else "  ",
      store.methods.map (fun method => (methodLines method).map ("  " ++ ·)), ?_, ?_⟩
    · have margin : (if (store.shell options).storageKey.isSome then "    " else "  ") =
          if options.persist then "    " else "  " := by
        cases persisted : options.persist <;> simp [shell, persisted]
      rw [margin] at starts
      rw [← bodyLines_eq, ← margin_append_body]
      exact starts
    · rw [sameMembers, List.forall₂_map_left_iff, List.forall₂_map_right_iff, List.forall₂_same]
      intro method member
      exact isImplementation_methodLines (continued method member)

end Store

/-! ## Declarations whose members clash -/

theorem Diagnostic.message_repeatedMembers (name : String) (members : List String) :
    (Diagnostic.repeatedMembers name members).message =
      "Skipping " ++ name ++ ": generated store member(s) defined twice: " ++
        ", ".intercalate members := by
  have words : ": " ++ "generated store member(s) defined twice: " =
      ": generated store member(s) defined twice: " :=
    rfl
  have message : (Diagnostic.repeatedMembers name members).message =
      "Skipping " ++ name ++ ": " ++
        ("generated store member(s) defined twice: " ++ ", ".intercalate members) :=
    rfl
  rw [message, ← words]
  simp only [String.append_assoc]

namespace Store

theorem result_build_eq_none_iff {declaration : Declaration} (stored : declaration.hasStore = true)
    (context : Context) :
    (build context declaration).result = none ↔ ¬ declaration.members.Nodup := by
  constructor
  · intro refused distinct
    have made : (build context declaration).result = some _ :=
      result_build_eq_some_iff.mpr ⟨stored, distinct, rfl⟩
    rw [refused] at made
    cases made
  · intro clash
    rw [Option.eq_none_iff_forall_ne_some]
    intro store made
    exact clash (result_build_eq_some_iff.mp made).2.1

theorem diagnostics_build_of_clash {declaration : Declaration}
    (stored : declaration.hasStore = true) (clash : ¬ declaration.members.Nodup)
    (context : Context) :
    (build context declaration).diagnostics =
      functionReports declaration.name (declaration.type.properties?.getD []) ++
        [.repeatedMembers declaration.name (NameSet.repeated declaration.members)] := by
  obtain ⟨exported, properties, typeName, root⟩ := Declaration.hasStore_iff.mp stored
  have repeated : NameSet.repeated declaration.members ≠ [] :=
    fun unrepeated => clash (NameSet.repeated_eq_nil_iff.mp unrepeated)
  rw [Declaration.members, Declaration.fields, root] at repeated
  rw [build, exported, Declaration.members, Declaration.fields, root]
  simp only [Bool.not_true, Bool.false_eq_true, if_false]
  split
  · rename_i unrepeated
    exact absurd unrepeated repeated
  · rfl

/-- The two interfaces of a store declare its members, which have distinct names, and its module
gives each field one initial value and each action one implementation, in the same order. An exported
object has no store exactly if a name comes twice among the members, and then the report lists those
that do. -/
theorem declares_and_implements_members (context : Context) (declaration : Declaration) :
    (∀ store, (build context declaration).result = some store →
      store.slots.map SlotOf.name ++ store.signatures.map Signature.member = declaration.members ∧
      declaration.members.Nodup ∧
      store.defaults.map Prod.fst = store.slots.map SlotOf.name ∧
      store.methods.map Method.member = store.signatures.map Signature.member ∧
      ∀ options, store.IsWrittenIn (store.code options)) ∧
    (declaration.hasStore = true →
      ((build context declaration).result = none ↔
        ∃ name, 1 < declaration.members.count name) ∧
      ((build context declaration).result = none →
        ∃ repeated, NameSet.ListsRepeated declaration.members repeated ∧
          Diagnostic.messages (build context declaration).diagnostics =
            Diagnostic.messages
                (functionReports declaration.name (declaration.type.properties?.getD [])) ++
              ["Skipping " ++ declaration.name ++ ": generated store member(s) defined twice: " ++
                ", ".intercalate repeated])) := by
  constructor
  · intro store made
    obtain ⟨_, distinct, rfl⟩ := result_build_eq_some_iff.mp made
    refine ⟨?_, distinct, ?_, ?_, isWrittenIn_code _ _ _⟩
    · rw [names_slots, members_signatures, Declaration.names_fields]
      rfl
    · rw [names_defaults, names_slots]
    · rw [members_methods, members_signatures]
  · intro stored
    constructor
    · have several : (∃ name, 1 < declaration.members.count name) ↔
          ¬ declaration.members.Nodup := by
        rw [List.nodup_iff_count_le_one]
        push Not
        rfl
      rw [several]
      exact result_build_eq_none_iff stored context
    · intro refused
      have clash := (result_build_eq_none_iff stored context).mp refused
      refine ⟨_, NameSet.listsRepeated _, ?_⟩
      rw [diagnostics_build_of_clash stored clash context, Diagnostic.messages, List.map_append,
        List.map_singleton, Diagnostic.message_repeatedMembers]
      rfl

/-- A playlist with a title and the tracks that it may have. -/
def playlistDeclaration : Declaration where
  name := "Playlist"
  type := .object [⟨"title", .primitive "string", false⟩,
    ⟨"tracks", .union [.array (some (.reference "Track")), .primitive "null"], true⟩] none
  dependencies := ["Track"]
  exported := true

/-- A playlist two of whose properties are called like actions of its store. -/
def crowdedPlaylistDeclaration : Declaration where
  name := "Playlist"
  type := .object [⟨"setPlaylist", .primitive "boolean", false⟩,
    ⟨"tracks", .array (some (.reference "Track")), false⟩,
    ⟨"clearTracks", .primitive "boolean", false⟩] none
  dependencies := ["Track"]
  exported := true

/-- The playlist has a store whose module implements eleven actions; the crowded one has none, for its
two repeated names. -/
theorem playlist_members_implemented :
    (∃ store, (build ⟨[], [], []⟩ playlistDeclaration).result = some store ∧
      store.slots.map SlotOf.name = ["title", "tracks"] ∧
      store.signatures.map Signature.member =
        ["setPlaylist", "resetPlaylist", "setTitle", "setTracks", "prependTracks", "appendTracks",
          "insertTracksAt", "removeTracksAt", "removeTracks", "moveTracks", "updateTracksAt",
          "clearTracks"] ∧
      store.methods.map Method.member = store.signatures.map Signature.member ∧
      store.IsWrittenIn (store.code StoreOptions.standard)) ∧
    crowdedPlaylistDeclaration.hasStore = true ∧
    (build ⟨[], [], []⟩ crowdedPlaylistDeclaration).result = none ∧
    ∃ repeated, "setPlaylist" ∈ repeated ∧ "clearTracks" ∈ repeated ∧ "tracks" ∉ repeated ∧
      Diagnostic.messages (build ⟨[], [], []⟩ crowdedPlaylistDeclaration).diagnostics =
        ["Skipping Playlist: generated store member(s) defined twice: " ++
          ", ".intercalate repeated] := by
  constructor
  · have distinct : playlistDeclaration.members.Nodup := by decide +kernel
    have made : (build ⟨[], [], []⟩ playlistDeclaration).result = some _ :=
      result_build_eq_some_iff.mpr ⟨rfl, distinct, rfl⟩
    obtain ⟨_, _, _, implemented, written⟩ :=
      (declares_and_implements_members ⟨[], [], []⟩ playlistDeclaration).1 _ made
    exact ⟨_, made, by decide +kernel, by decide +kernel, implemented,
      written StoreOptions.standard⟩
  · have stored : crowdedPlaylistDeclaration.hasStore = true := rfl
    obtain ⟨refusal, report⟩ :=
      (declares_and_implements_members ⟨[], [], []⟩ crowdedPlaylistDeclaration).2 stored
    have refused := refusal.mpr ⟨"clearTracks", by decide +kernel⟩
    obtain ⟨repeated, lists, messages⟩ := report refused
    exact ⟨stored, refused, repeated, (lists.mem_iff _).mpr (by decide +kernel),
      (lists.mem_iff _).mpr (by decide +kernel), fun there =>
        absurd ((lists.mem_iff _).mp there) (by decide +kernel), messages⟩

end Store

end TypeScaffold
