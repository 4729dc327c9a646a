import TypeScaffold.Proofs.Generation.StorageKeys
import TypeScaffold.Proofs.Store.Interface
import TypeScaffold.Proofs.Text.Unbroken

/-!
# Persisted stores

A persisted store is the same store inside a wrapper. Up to the line that opens the store the two
texts agree, and the function that makes the store stands further right, line for line, with a comma
behind it.
-/

namespace TypeScaffold

open Text

/-! ## Lines of implementations -/

namespace Method

/-- No line of the implementation holds a line feed. -/
structure IsUnbroken (method : Method) : Prop where
  member : Unbroken method.member
  head : Unbroken method.head
  tail : ∀ line ∈ method.tail, Unbroken line

end Method

theorem unbroken_setMember {field : String} (named : Unbroken field) :
    Unbroken (setMember field) := by
  rw [setMember, unbroken_append_iff]
  exact ⟨by decide, named.capitalize⟩

namespace ArrayAction

theorem unbroken_member {name : String} (named : Unbroken name) (action : ArrayAction) :
    Unbroken (action.member name) := by
  have capital := named.capitalize
  cases action <;> simp only [member, unbroken_append_iff, capital, and_true] <;>
    decide +kernel

theorem isUnbroken_method {field : ArrayField} (named : Unbroken field.name)
    (current : Unbroken field.current) (action : ArrayAction) :
    (action.method field).IsUnbroken := by
  have begun := unbroken_member named action
  have copied : Unbroken (copyLine field) := by
    have text : copyLine field = r"  const next = [..." ++ field.current ++ "]" := rfl
    simp only [text, unbroken_append_iff, current, and_true]
    decide +kernel
  have returned : Unbroken (returnLine field) := by
    have text : returnLine field = r"  return { " ++ field.name ++ r": next }" := rfl
    simp only [text, unbroken_append_iff, named, and_true]
    decide +kernel
  cases action with
  | prepend | append | clear =>
      refine ⟨begun, ?_, List.forall_mem_nil _⟩
      simp only [method, unbroken_append_iff, named, current, and_true]
      decide +kernel
  | insertAt | move =>
      refine ⟨begun, ?_, ?_⟩
      · simp only [method]
        decide +kernel
      · simp only [method, List.forall_mem_cons, copied, returned, true_and]
        decide +kernel
  | removeAt | removeWhere =>
      refine ⟨begun, ?_, ?_⟩
      · simp only [method]
        decide +kernel
      · simp only [method, List.forall_mem_cons, unbroken_append_iff, named, current, and_true]
        decide +kernel
  | updateAt =>
      refine ⟨begun, ?_, ?_⟩
      · simp only [method]
        decide +kernel
      · simp only [method, List.cons_append, List.forall_mem_cons, List.forall_mem_append, copied,
          returned, true_and]
        cases field.merges <;> decide +kernel

end ArrayAction

namespace Store

theorem isUnbroken_of_mem_fieldMethods {arena : Keyed Declaration} {field : ResolvedProperty}
    (named : Unbroken field.name) {method : Method} (member : method ∈ fieldMethods arena field) :
    method.IsUnbroken := by
  rcases List.mem_cons.mp member with rfl | ofArray
  · constructor
    · exact unbroken_setMember named
    · simp only [unbroken_append_iff, named, and_true]
      decide +kernel
    · exact List.forall_mem_nil _
  · cases node : field.node with
    | array element =>
        rw [node] at ofArray
        obtain ⟨action, _, rfl⟩ := List.mem_map.mp ofArray
        apply ArrayAction.isUnbroken_method named
        rw [ArrayField.ofProperty]
        dsimp only
        split <;> simp only [unbroken_append_iff, named, and_true] <;> decide +kernel
    | _ =>
        rw [node] at ofArray
        cases ofArray

theorem isUnbroken_of_mem_methods {name : String} {arena : Keyed Declaration}
    {fields : List FieldSource} (named : Unbroken name)
    (fieldsNamed : ∀ field ∈ fields, Unbroken field.resolved.name) {method : Method}
    (member : method ∈ (ofFields name arena fields).methods) : method.IsUnbroken := by
  have setsState : Unbroken "(state) => set(state)" := by decide +kernel
  rcases List.mem_cons.mp member with rfl | others
  · refine ⟨?_, setsState, List.forall_mem_nil _⟩
    rw [Naming.setAll, unbroken_append_iff]
    exact ⟨by decide, named⟩
  rcases List.mem_cons.mp others with rfl | ofField
  · refine ⟨?_, ?_, List.forall_mem_nil _⟩
    · rw [Naming.reset, unbroken_append_iff]
      exact ⟨by decide, named⟩
    · simp only [Naming.defaultState, unbroken_append_iff, named, and_true]
      decide +kernel
  obtain ⟨field, there, ofActions⟩ := List.mem_flatMap.mp ofField
  exact isUnbroken_of_mem_fieldMethods (fieldsNamed field there) ofActions

theorem unbroken_of_mem_methodLines {method : Method} (unbroken : method.IsUnbroken) :
    ∀ line ∈ methodLines method, Unbroken line := by
  have each : ∀ line ∈ (method.member ++ ": " ++ method.head) :: method.tail, Unbroken line := by
    rw [List.forall_mem_cons, unbroken_append_iff, unbroken_append_iff]
    exact ⟨⟨⟨unbroken.member, by decide⟩, unbroken.head⟩, unbroken.tail⟩
  intro line member
  rcases List.mem_append.mp member with before | last
  · exact each line (List.mem_of_mem_dropLast before)
  · rw [Option.mem_toList, Option.map_eq_some_iff] at last
    obtain ⟨ending, isLast, rfl⟩ := last
    rw [unbroken_append_iff]
    exact ⟨each ending (List.mem_of_getLast? isLast), by decide⟩

/-- The lines of the function that makes the store hold no line feed. -/
theorem unbroken_of_mem_bodyLines {name : String} {arena : Keyed Declaration}
    {fields : List FieldSource} (named : Unbroken name)
    (fieldsNamed : ∀ field ∈ fields, Unbroken field.resolved.name) :
    ∀ line ∈ (ofFields name arena fields).bodyLines, Unbroken line := by
  have spread : Unbroken ("  ..." ++ Naming.defaultState name ++ ",") := by
    simp only [Naming.defaultState, unbroken_append_iff, named, and_true]
    decide +kernel
  rw [bodyLines_eq, List.forall_mem_append, List.forall_mem_append]
  refine ⟨⟨?_, ?_⟩, by decide +kernel⟩
  · exact List.forall_mem_cons.mpr ⟨by decide +kernel, List.forall_mem_singleton.mpr spread⟩
  · intro line member
    obtain ⟨block, blockMember, there⟩ := List.mem_flatten.mp member
    obtain ⟨method, methodMember, rfl⟩ := List.mem_map.mp blockMember
    obtain ⟨inner, innerMember, rfl⟩ := List.mem_map.mp there
    have unbroken := isUnbroken_of_mem_methods named fieldsNamed methodMember
    rw [unbroken_append_iff]
    exact ⟨by decide, unbroken_of_mem_methodLines unbroken inner innerMember⟩

/-! ## The wrapper -/

theorem unbroken_openingLine {name : String} (named : Unbroken name) :
    Unbroken (openingLine name) := by
  have text : openingLine name = "export const " ++ ("use" ++ name ++ "Store") ++ " = create<" ++
      (name ++ "State") ++ " & " ++ (name ++ "Actions") ++ ">()(" := rfl
  simp only [text, unbroken_append_iff, named, and_true, true_and]
  decide +kernel

/-- The lines of the function that makes the store, except the last. -/
def bodyFront (store : Store) : List String :=
  r"(set) => ({" ::
    (("..." ++ Naming.defaultState store.name ++ ",") ::
      store.methods.flatMap methodLines).map ("  " ++ ·)

theorem bodyLines_eq_append (store : Store) : store.bodyLines = store.bodyFront ++ [r"})"] :=
  rfl

theorem unbroken_of_mem_map_bodyLines {store : Store} {margin : String}
    (inBody : ∀ line ∈ store.bodyLines, Unbroken line) (inMargin : Unbroken margin) :
    ∀ line ∈ store.bodyLines.map (margin ++ ·), Unbroken line := by
  intro line member
  obtain ⟨inner, there, rfl⟩ := List.mem_map.mp member
  exact unbroken_append_iff.mpr ⟨inMargin, inBody inner there⟩

/-- The lines of a store in memory. -/
theorem lines_code_of_memory {options : StoreOptions} {store : Store}
    (forgets : options.persist = false) (named : Unbroken store.name)
    (inBody : ∀ line ∈ store.bodyLines, Unbroken line) :
    lines (store.code options) = lines (unlines store.interfaceParts) ++
      ([openingLine store.name] ++ store.bodyLines.map ("  " ++ ·) ++ [")"]) := by
  have plain : ∀ line ∈ [openingLine store.name] ++ store.bodyLines.map ("  " ++ ·) ++ [")"],
      Unbroken line := by
    rw [List.forall_mem_append, List.forall_mem_append, List.forall_mem_singleton,
      List.forall_mem_singleton]
    exact ⟨⟨unbroken_openingLine named, unbroken_of_mem_map_bodyLines inBody (by decide)⟩,
      by decide⟩
  have filled : store.interfaceParts ++ [openingLine store.name] ≠ [] :=
    List.append_ne_nil_of_left_ne_nil store.interfaceParts_ne_nil _
  have body : store.bodyLines.map ("  " ++ ·) ≠ [] := List.cons_ne_nil _ _
  rw [code_of_forgotten forgets, margin_append_body, unlines_append_unlines filled body, List.append_assoc,
    List.append_assoc, ← List.append_assoc [_],
    lines_unlines_append store.interfaceParts_ne_nil plain]

/-- The lines of a persisted store. -/
theorem lines_code_of_persisted {options : StoreOptions} {store : Store}
    (persists : options.persist = true) (named : Unbroken store.name)
    (inBody : ∀ line ∈ store.bodyLines, Unbroken line) :
    lines (store.code options) = lines (unlines store.interfaceParts) ++
      ([openingLine store.name, "  persist("] ++
        (store.bodyFront.map ("    " ++ ·) ++ [r"    })" ++ ","]) ++
        [r"    {", keyLine (options.keyFor store.name), r"    }", "  )", ")"]) := by
  have parts : store.code options = unlines (store.interfaceParts ++
      [openingLine store.name, "  persist("] ++ ("    " ++ store.body "    " ++ ",") ::
        [r"    {", keyLine (options.keyFor store.name), r"    }", "  )", ")"]) := by
    rw [code_of_persisted persists]
    simp only [endingLines, List.append_assoc, List.cons_append, List.nil_append]
  have inFront : ∀ line ∈ store.bodyFront.map ("    " ++ ·), Unbroken line := by
    have inMargin : Unbroken "    " := by decide
    have all := unbroken_of_mem_map_bodyLines inBody inMargin
    rw [bodyLines_eq_append, List.map_append, List.forall_mem_append] at all
    exact all.1
  have wrapped : ∀ line ∈ [openingLine store.name, "  persist("] ++
      (store.bodyFront.map ("    " ++ ·) ++ [r"    })" ++ ","]) ++
      [r"    {", keyLine (options.keyFor store.name), r"    }", "  )", ")"], Unbroken line := by
    rw [List.forall_mem_append, List.forall_mem_append, List.forall_mem_append]
    have opening := unbroken_openingLine named
    refine ⟨⟨?_, inFront, by decide +kernel⟩, ?_⟩
    · exact List.forall_mem_cons.mpr ⟨opening, by decide +kernel⟩
    · exact List.forall_mem_cons.mpr ⟨by decide +kernel, List.forall_mem_cons.mpr
        ⟨newline_notMem_keyLine _, by decide +kernel⟩⟩
  have filled : store.interfaceParts ++ [openingLine store.name, "  persist("] ≠ [] :=
    List.append_ne_nil_of_left_ne_nil store.interfaceParts_ne_nil _
  have body : unlines (store.bodyLines.map ("    " ++ ·)) ++ "," =
      unlines (store.bodyFront.map ("    " ++ ·) ++ [r"    })" ++ ","]) := by
    have last : "    " ++ r"})" = r"    })" := rfl
    rw [bodyLines_eq_append, List.map_append, List.map_singleton, unlines_append_last, last]
  rw [parts, margin_append_body, body,
    unlines_append_unlines filled (List.append_ne_nil_of_right_ne_nil _ (List.cons_ne_nil _ _)),
    List.append_assoc, List.append_assoc, ← List.append_assoc [_, _],
    lines_unlines_append store.interfaceParts_ne_nil wrapped]

theorem result_map_code_eq_some_iff {context : Context} {declaration : Declaration}
    {options : StoreOptions} {text : String} :
    ((build context declaration).map (code options)).result = some text ↔
      declaration.hasStore = true ∧ declaration.members.Nodup ∧
        text = (ofFields declaration.name context.arena declaration.fields).code options := by
  rw [Outcome.map, Option.map_eq_some_iff]
  constructor
  · rintro ⟨store, made, rfl⟩
    obtain ⟨stored, distinct, rfl⟩ := result_build_eq_some_iff.mp made
    exact ⟨stored, distinct, rfl⟩
  · rintro ⟨stored, distinct, rfl⟩
    exact ⟨_, result_build_eq_some_iff.mpr ⟨stored, distinct, rfl⟩, rfl⟩

/-- A persisted store and one in memory have one text up to the line that opens the store. The lines
of the function that makes the store stand two further right in the persisted one, with a comma
behind the last, and around them is nothing but the wrapper with the storage key. What is reported
does not differ. -/
theorem persistence_only_wraps {context : Context} {declaration : Declaration}
    {kept memory : StoreOptions} {text : String}
    (made : ((build context declaration).map (code memory)).result = some text)
    (persists : kept.persist = true) (forgets : memory.persist = false)
    (named : Unbroken declaration.name)
    (fieldsNamed : ∀ field ∈ declaration.fields, Unbroken field.property.name) :
    ∃ persisted front body last,
      ((build context declaration).map (code kept)).result = some persisted ∧
        lines text = front ++ [openingLine declaration.name] ++ (body ++ [last]) ++ [")"] ∧
        lines persisted = front ++ [openingLine declaration.name] ++ ["  persist("] ++
          (body ++ [last ++ ","]).map ("  " ++ ·) ++
          [r"    {", "      name: " ++ singleQuoted (kept.keyFor declaration.name) ++ ",",
            r"    }", "  )", ")"] ∧
        body.head? = some r"  (set) => ({" ∧ last = r"  })" ∧
        ((build context declaration).map (code kept)).diagnostics =
          ((build context declaration).map (code memory)).diagnostics := by
  obtain ⟨stored, distinct, rfl⟩ := result_map_code_eq_some_iff.mp made
  have resolvedNamed : ∀ field ∈ declaration.fields, Unbroken field.resolved.name := by
    intro field member
    obtain ⟨property, _, rfl⟩ := List.mem_map.mp (List.mem_of_mem_filter member)
    exact fieldsNamed _ member
  have inBody : ∀ line ∈ (ofFields declaration.name context.arena declaration.fields).bodyLines,
      Unbroken line :=
    unbroken_of_mem_bodyLines named resolvedNamed
  generalize same : ofFields declaration.name context.arena declaration.fields = store at inBody ⊢
  have sameName : store.name = declaration.name := by rw [← same]; rfl
  rw [← sameName] at named ⊢
  refine ⟨store.code kept, lines (unlines store.interfaceParts), store.bodyFront.map ("  " ++ ·),
    r"  })", ?_, ?_, ?_, rfl, rfl, ?_⟩
  · rw [result_map_code_eq_some_iff, same]
    exact ⟨stored, distinct, rfl⟩
  · have last : "  " ++ r"})" = r"  })" := rfl
    rw [lines_code_of_memory forgets named inBody, bodyLines_eq_append, List.map_append,
      List.map_singleton, last]
    simp only [List.append_assoc]
  · have further : store.bodyFront.map ("    " ++ ·) =
        (store.bodyFront.map ("  " ++ ·)).map ("  " ++ ·) := by
      rw [List.map_map]
      apply List.map_congr_left
      intro line _
      rw [Function.comp_apply, ← String.append_assoc]
      rfl
    have last : r"    })" ++ "," = "  " ++ (r"  })" ++ ",") := rfl
    rw [lines_code_of_persisted persists named inBody, further, List.map_append,
      List.map_singleton, last, keyLine]
    simp only [List.append_assoc, List.cons_append, List.nil_append]
  · rw [Outcome.map, Outcome.map]

/-- A basket with an array of items and a function, of which the store takes no notice. -/
def basketDeclaration : Declaration where
  name := "Basket"
  type := .object [⟨"items", .array (some (.reference "Item")), false⟩,
    ⟨"note", .primitive "string", true⟩, ⟨"onOpen", .function, false⟩] (some "Basket")
  dependencies := ["Item"]
  exported := true

theorem basket_is_wrapped :
    (∀ field ∈ basketDeclaration.fields, Unbroken field.property.name) ∧
      ∃ text persisted front body last,
        ((build ⟨[], [], []⟩ basketDeclaration).map (code ⟨false, none⟩)).result = some text ∧
          ((build ⟨[], [], []⟩ basketDeclaration).map (code .standard)).result = some persisted ∧
          lines text = front ++ ["export const useBasketStore = " ++
            "create<BasketState & BasketActions>()("] ++ (body ++ [last]) ++ [")"] ∧
          lines persisted = front ++ ["export const useBasketStore = " ++
            "create<BasketState & BasketActions>()("] ++ ["  persist("] ++
            (body ++ [last ++ ","]).map ("  " ++ ·) ++
            [r"    {", "      name: 'basket-storage',", r"    }", "  )", ")"] := by
  have named : Unbroken basketDeclaration.name := by decide
  have fieldsNamed : ∀ field ∈ basketDeclaration.fields, Unbroken field.property.name := by decide
  have distinct : basketDeclaration.members.Nodup := by decide +kernel
  have made : ((build ⟨[], [], []⟩ basketDeclaration).map (code ⟨false, none⟩)).result = some _ :=
    result_map_code_eq_some_iff.mpr ⟨rfl, distinct, rfl⟩
  have keeps : StoreOptions.standard.persist = true := rfl
  obtain ⟨persisted, front, body, last, madeToo, inMemory, kept, _⟩ :=
    persistence_only_wraps made keeps rfl named fieldsNamed
  have opening : openingLine basketDeclaration.name =
      "export const useBasketStore = " ++ "create<BasketState & BasketActions>()(" := by
    decide +kernel
  have key : "      name: " ++ singleQuoted (StoreOptions.standard.keyFor basketDeclaration.name) ++
      "," = "      name: 'basket-storage'," := by
    decide +kernel
  rw [opening] at inMemory kept
  rw [key] at kept
  exact ⟨fieldsNamed, _, persisted, front, body, last, made, madeToo, inMemory, kept⟩

end Store

end TypeScaffold
