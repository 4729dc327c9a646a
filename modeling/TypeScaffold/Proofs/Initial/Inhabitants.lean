import TypeScaffold.Proofs.Initial.Inlining
import TypeScaffold.Proofs.Keyed
import TypeScaffold.Proofs.Model.Choice
import TypeScaffold.Proofs.Model.Literals
import TypeScaffold.Proofs.Model.Resolve

/-!
# Initial values belong to their types

Which texts are expressions of a type is said by the type alone: a literal by texts for its value, an
object by an entry for each property, a union by the texts of its members, a reference by the constant
of its store or by what the declared type has. The initial value of a type is such a text wherever the
type has a value at all, however the declarations refer to one another. The one exception are numbers
that are not finite, for which no expression is written.
-/

namespace TypeScaffold

open Decimal

/-! ## Expressions of types -/

/-- The text is an expression for the number, up to the sign of zero. -/
def Decimal.Double.IsWrittenAs (number : Double) (expression : String) : Prop :=
  match number with
  | .nan => expression = "NaN"
  | .infinity false => expression = "Infinity"
  | .infinity true => expression = "-Infinity"
  | .finite _ _ _ _ =>
      expression = number.text ∨ ∃ whole, number.toInt? = some whole ∧ expression = toString whole

/-- The text is an expression for the value. -/
def Scalar.IsWrittenAs (value : Scalar) (expression : String) : Prop :=
  match value with
  | .bool truth => expression = if truth then "true" else "false"
  | .int whole => expression = toString whole
  | .float number => number.IsWrittenAs expression
  | .text content =>
      expression = Text.doubleQuoted content ∨ expression = Text.singleQuoted content

/-- The text is an expression of the built-in type of the name. Every text is one of a type that is
not known. -/
def IsPrimitiveExpression (name text : String) : Prop :=
  match name with
  | "string" => ∃ content, (Scalar.text content).IsWrittenAs text
  | "number" =>
      (∃ whole, (Scalar.int whole).IsWrittenAs text) ∨
        ∃ number, (Scalar.float number).IsWrittenAs text
  | "boolean" => ∃ truth, (Scalar.bool truth).IsWrittenAs text
  | "bigint" => ∃ whole : Int, text = "BigInt(" ++ toString whole ++ ")"
  | "Date" | "date" => text = "new Date()"
  | "null" => text = "null"
  | "undefined" | "void" => text = "undefined"
  | "never" => False
  | _ => True

/-- The text of a list with the given items. -/
def listExpression (items : List String) : String :=
  "[" ++ ", ".intercalate items ++ "]"

/-- The text of an object with the given entries. -/
def objectExpression (entries : List String) : String :=
  match entries with
  | [] => r"{}"
  | _ => r"{ " ++ ", ".intercalate entries ++ r" }"

namespace TypeNode

mutual

/-- The text is an expression of the type among declarations. -/
inductive HasExpression (arena : Keyed Declaration) : TypeNode → String → Prop where
  | primitive {name text : String} (written : IsPrimitiveExpression name text) :
      HasExpression arena (.primitive name) text
  | literal {value : Scalar} {text : String} (written : value.IsWrittenAs text) :
      HasExpression arena (.literal value) text
  | array (element : Option TypeNode) : HasExpression arena (.array element) (listExpression [])
  | tuple {elements : List TypeNode} {items : List String}
      (each : HasExpressions arena elements items) :
      HasExpression arena (.tuple elements) (listExpression items)
  | union {members : List TypeNode} {member : TypeNode} {text : String} (listed : member ∈ members)
      (written : HasExpression arena member text) : HasExpression arena (.union members) text
  /-- Objects that hold together are written as one with the properties of all. -/
  | intersection {members : List TypeNode} {properties : List (List Property)}
      {entries : List String} (objects : members.mapM properties? = some properties)
      (each : HasEntries arena properties.flatten entries) :
      HasExpression arena (.intersection members) (objectExpression entries)
  | object {properties : List Property} {entries : List String} (name : Option String)
      (each : HasEntries arena properties entries) :
      HasExpression arena (.object properties name) (objectExpression entries)
  | enumeration {members : List EnumMember} {member : EnumMember} {text : String}
      (name : Option String) (listed : member ∈ members)
      (written : member.value.scalar.IsWrittenAs text) :
      HasExpression arena (.enumeration members name) text
  | record (key value : Option TypeNode) :
      HasExpression arena (.record key value) (objectExpression [])
  | constant (name : String) : HasExpression arena (.reference name) (Naming.defaultState name)
  | declared {name text : String} {target : Declaration} (found : arena.get? name = some target)
      (written : HasExpression arena target.type text) : HasExpression arena (.reference name) text
  | function (text : String) : HasExpression arena .function text
  | unknown (rawText : Option String) (text : String) : HasExpression arena (.unknown rawText) text

/-- The texts are expressions of the types in order. -/
inductive HasExpressions (arena : Keyed Declaration) : List TypeNode → List String → Prop where
  | nil : HasExpressions arena [] []
  | cons {node : TypeNode} {text : String} {nodes : List TypeNode} {texts : List String}
      (written : HasExpression arena node text) (others : HasExpressions arena nodes texts) :
      HasExpressions arena (node :: nodes) (text :: texts)

/-- The texts are entries for the properties in order. -/
inductive HasEntries (arena : Keyed Declaration) : List Property → List String → Prop where
  | nil : HasEntries arena [] []
  | present {name text : String} {type : TypeNode} {properties : List Property}
      {entries : List String} (optional : Bool) (written : HasExpression arena type text)
      (others : HasEntries arena properties entries) :
      HasEntries arena (⟨name, type, optional⟩ :: properties) ((name ++ ": " ++ text) :: entries)
  | absent {name : String} {properties : List Property} {entries : List String} (type : TypeNode)
      (others : HasEntries arena properties entries) :
      HasEntries arena (⟨name, type, true⟩ :: properties) ((name ++ ": " ++ "undefined") :: entries)

end

/-- The type has a value that can be written down: nothing in it is `never`, an enumeration without
values or a union of nothing but `null`, and intersections are of objects that do not share a name. -/
inductive IsInhabitable : TypeNode → Prop where
  | primitive {name : String} (possible : name ≠ "never") : IsInhabitable (.primitive name)
  | literal (value : Scalar) : IsInhabitable (.literal value)
  | array (element : Option TypeNode) : IsInhabitable (.array element)
  | tuple {elements : List TypeNode} (each : ∀ element ∈ elements, IsInhabitable element) :
      IsInhabitable (.tuple elements)
  | union {members : List TypeNode} (each : ∀ member ∈ members, IsInhabitable member)
      (possible : ∃ member ∈ members, member.isNull = false) : IsInhabitable (.union members)
  | intersection {members : List TypeNode} {properties : List (List Property)}
      (objects : members.mapM properties? = some properties)
      (distinct : (properties.flatten.map PropertyOf.name).Nodup)
      (each : ∀ member ∈ members, IsInhabitable member) : IsInhabitable (.intersection members)
  | object {properties : List Property} (name : Option String)
      (each : ∀ property ∈ properties, IsInhabitable property.type) :
      IsInhabitable (.object properties name)
  | enumeration {members : List EnumMember} (name : Option String) (filled : members ≠ []) :
      IsInhabitable (.enumeration members name)
  | record (key value : Option TypeNode) : IsInhabitable (.record key value)
  | reference (name : String) : IsInhabitable (.reference name)
  | function : IsInhabitable .function
  | unknown (rawText : Option String) : IsInhabitable (.unknown rawText)

end TypeNode

/-! ## Literals of initial values -/

/-- What is written for a value is an expression for it just when the value is finite. -/
theorem Scalar.isWrittenAs_code_iff {value : Scalar} :
    value.IsWrittenAs value.code ↔ value.IsFinite := by
  cases value with
  | bool truth => exact iff_of_true (by cases truth <;> rfl) trivial
  | int whole => exact iff_of_true rfl trivial
  | text content => exact iff_of_true (Or.inl rfl) trivial
  | float number =>
      cases number with
      | nan => exact iff_of_false (show "nan" ≠ "NaN" by decide) id
      | infinity negative =>
          refine iff_of_false ?_ id
          cases negative
          · exact (show "inf" ≠ "Infinity" by decide)
          · exact (show "-inf" ≠ "-Infinity" by decide)
      | finite negative significand power canonical =>
          refine iff_of_true ?_ trivial
          rw [Scalar.code]
          split
          · rename_i whole found
            exact Or.inr ⟨whole, found, rfl⟩
          · exact Or.inl rfl

namespace Initial

mutual

/-- The values that an initial value writes as literals, in the order of its text. -/
def literals : Initial → List Scalar
  | .literal value => [value]
  | .list items => literalsOfAll items
  | .object entries => literalsOfEntries entries
  | .absent | .builtin _ | .constant _ => []
termination_by structural value => value

/-- The literals of the listed values. -/
def literalsOfAll : List Initial → List Scalar
  | [] => []
  | value :: rest => literals value ++ literalsOfAll rest
termination_by structural values => values

/-- The literals of entries. -/
def literalsOfEntries : List (String × Initial) → List Scalar
  | [] => []
  | (_, value) :: rest => literals value ++ literalsOfEntries rest
termination_by structural entries => entries

end

/-- No literal of the value is an infinite number or no number at all. -/
def IsFinite (initial : Initial) : Prop :=
  ∀ value ∈ initial.literals, value.IsFinite

/-! ## Texts of initial values -/

theorem code_object (entries : List (String × Initial)) :
    (Initial.object entries).code = objectExpression (entryCodes entries) := by
  cases entries <;> rfl

theorem isPrimitiveExpression_ofPrimitive {name : String} (possible : name ≠ "never") :
    IsPrimitiveExpression name (ofPrimitive name).code := by
  unfold ofPrimitive
  split
  case h_1 => exact ⟨"", Or.inr rfl⟩
  case h_2 => exact Or.inl ⟨0, rfl⟩
  case h_3 => exact ⟨false, rfl⟩
  case h_4 => exact ⟨0, rfl⟩
  case h_5 => rfl
  case h_6 => rfl
  case h_7 => rfl
  case h_8 =>
    unfold IsPrimitiveExpression
    split <;> trivial

/-! ## Synthesis -/

section Synthesis

variable {arena : Keyed Declaration} {reference : String → Initial}

theorem entryCodes_append (first second : List (String × Initial)) :
    entryCodes (first ++ second) = entryCodes first ++ entryCodes second := by
  induction first with
  | nil => rfl
  | cons entry rest inductionHypothesis =>
      rw [List.cons_append, entryCodes, entryCodes, inductionHypothesis, List.cons_append]

theorem literalsOfEntries_append (first second : List (String × Initial)) :
    literalsOfEntries (first ++ second) = literalsOfEntries first ++ literalsOfEntries second := by
  induction first with
  | nil => rfl
  | cons entry rest inductionHypothesis =>
      rw [List.cons_append, literalsOfEntries, literalsOfEntries, inductionHypothesis,
        List.append_assoc]

theorem hasEntries_append {first second : List Property} {entries others : List String}
    (left : TypeNode.HasEntries arena first entries)
    (right : TypeNode.HasEntries arena second others) :
    TypeNode.HasEntries arena (first ++ second) (entries ++ others) := by
  induction first generalizing entries with
  | nil => cases left; exact right
  | cons property rest inductionHypothesis =>
      cases left with
      | present optional written later => exact .present optional written (inductionHypothesis later)
      | absent type later => exact .absent type (inductionHypothesis later)

/-- The names of the entries are those of the properties. -/
theorem map_fst_ofProperties (properties : List Property) :
    (ofProperties reference properties).map Prod.fst = properties.map PropertyOf.name := by
  induction properties with
  | nil => rfl
  | cons property rest inductionHypothesis =>
      rw [ofProperties, List.map_cons, List.map_cons, inductionHypothesis]

theorem map_fst_ofObjects {members : List TypeNode} {properties : List (List Property)}
    (objects : members.mapM TypeNode.properties? = some properties) :
    (ofObjects reference members).map Prod.fst = properties.flatten.map PropertyOf.name := by
  rw [mapM_eq_some_iff] at objects
  induction objects with
  | nil => rfl
  | cons here _ inductionHypothesis =>
      obtain ⟨name, rfl⟩ := TypeNode.properties?_eq_some_iff.mp here
      rw [ofObjects, List.map_append, map_fst_ofProperties, inductionHypothesis, List.flatten_cons,
        List.map_append]

/-- Objects that do not share a name are one object with the entries of all. -/
theorem ofNode_intersection {members : List TypeNode} {properties : List (List Property)}
    (objects : members.mapM TypeNode.properties? = some properties)
    (distinct : (properties.flatten.map PropertyOf.name).Nodup) :
    ofNode reference (.intersection members) = .object (ofObjects reference members) := by
  have allObjects : members.all TypeNode.isObject = true := by
    rw [List.all_eq_true]
    intro member listed
    obtain ⟨own, _, object⟩ := exists_of_mem_mapM objects listed
    obtain ⟨name, rfl⟩ := TypeNode.properties?_eq_some_iff.mp object
    rfl
  have distinctKeys : (Keyed.keys (ofObjects reference members)).Nodup := by
    rw [Keyed.keys, map_fst_ofObjects objects]
    exact distinct
  rw [ofNode, if_pos allObjects, Keyed.ofList_of_nodup distinctKeys]

/-- A property with an optional type can be written as absent. -/
theorem hasExpression_of_isSome_unwrapOptional? {type : TypeNode}
    (optional : type.unwrapOptional?.isSome = true) : type.HasExpression arena "undefined" := by
  obtain ⟨core, found⟩ := Option.isSome_iff_exists.mp optional
  cases type with
  | union members =>
      have unwrapped : companion? TypeNode.isUndefined members (members.map id) = some core := by
        rw [List.map_id]
        exact found
      obtain ⟨missing, other, placed, passes, _⟩ := exists_of_companion?_map unwrapped
      obtain rfl := TypeNode.eq_of_isPrimitive passes
      have listed : TypeNode.primitive "undefined" ∈ members := by rcases placed with rfl | rfl <;> simp
      exact .union listed (.primitive rfl)
  | _ => cases found

/-- A type that is empty and not `null` is written as absent. -/
theorem hasExpression_of_isEmptyValue {node : TypeNode} (empty : node.isEmptyValue = true)
    (possible : node.isNull = false) : node.HasExpression arena "undefined" := by
  rw [TypeNode.isEmptyValue, possible, Bool.false_or] at empty
  obtain rfl := TypeNode.eq_of_isPrimitive empty
  exact .primitive rfl

/-- What is given for a reference is an expression of it, if its literals are finite. -/
def ExpressesReferences (arena : Keyed Declaration) (reference : String → Initial) : Prop :=
  ∀ name, (reference name).IsFinite →
    (TypeNode.reference name).HasExpression arena (reference name).code

mutual

/-- The initial value of a type is an expression of the type, if those of references are. -/
theorem hasExpression_ofNode (references : ExpressesReferences arena reference) :
    ∀ {node : TypeNode}, node.IsInhabitable → (ofNode reference node).IsFinite →
      node.HasExpression arena (ofNode reference node).code
  | .primitive _, .primitive possible, _ => .primitive (isPrimitiveExpression_ofPrimitive possible)
  | .literal value, _, finite =>
      .literal (Scalar.isWrittenAs_code_iff.mpr (finite value List.mem_cons_self))
  | .array element, _, _ => .array element
  | .tuple _, .tuple each, finite => .tuple (hasExpressions_ofNodes references each finite)
  | .union _, .union each possible, finite => by
      rcases hasExpression_ofFirstPresent references each finite with
        ⟨member, listed, written⟩ | ⟨allEmpty, absent⟩
      · exact .union listed written
      · obtain ⟨member, listed, present⟩ := possible
        rw [ofNode, absent]
        exact .union listed (hasExpression_of_isEmptyValue (allEmpty member listed) present)
  | .intersection _, .intersection objects distinct each, finite => by
      rw [ofNode_intersection objects distinct] at finite ⊢
      rw [code_object]
      exact .intersection objects (hasEntries_ofObjects references objects each finite)
  | .object _ name, .object _ each, finite => by
      rw [ofNode, code_object]
      exact .object name (hasEntries_ofProperties references each finite)
  | .enumeration (member :: _) name, _, finite =>
      .enumeration name List.mem_cons_self
        (Scalar.isWrittenAs_code_iff.mpr (finite member.value.scalar List.mem_cons_self))
  | .enumeration [] _, .enumeration _ filled, _ => absurd rfl filled
  | .record key value, _, _ => .record key value
  | .reference name, _, finite => references name finite
  | .function, _, _ => .function _
  | .unknown rawText, _, _ => .unknown rawText _

theorem hasExpressions_ofNodes (references : ExpressesReferences arena reference) :
    ∀ {nodes : List TypeNode}, (∀ node ∈ nodes, node.IsInhabitable) →
      (∀ value ∈ literalsOfAll (ofNodes reference nodes), value.IsFinite) →
      TypeNode.HasExpressions arena nodes (itemCodes (ofNodes reference nodes))
  | [], _, _ => .nil
  | _ :: _, each, finite => by
      obtain ⟨first, others⟩ := List.forall_mem_cons.mp each
      obtain ⟨finiteFirst, finiteOthers⟩ := List.forall_mem_append.mp finite
      exact .cons (hasExpression_ofNode references first finiteFirst)
        (hasExpressions_ofNodes references others finiteOthers)

/-- The first value that is not empty is an expression of its member; else all members are empty. -/
theorem hasExpression_ofFirstPresent (references : ExpressesReferences arena reference) :
    ∀ {members : List TypeNode}, (∀ member ∈ members, member.IsInhabitable) →
      (ofFirstPresent reference members).IsFinite →
      (∃ member ∈ members, member.HasExpression arena (ofFirstPresent reference members).code) ∨
        (∀ member ∈ members, member.isEmptyValue = true) ∧
          ofFirstPresent reference members = .absent
  | [], _, _ => Or.inr ⟨List.forall_mem_nil _, rfl⟩
  | member :: rest, each, finite => by
      obtain ⟨first, others⟩ := List.forall_mem_cons.mp each
      rw [ofFirstPresent] at finite ⊢
      by_cases empty : member.isEmptyValue = true
      · rw [if_pos empty] at finite ⊢
        rcases hasExpression_ofFirstPresent references others finite with
          ⟨later, listed, written⟩ | ⟨allEmpty, absent⟩
        · exact Or.inl ⟨later, List.mem_cons_of_mem member listed, written⟩
        · exact Or.inr ⟨List.forall_mem_cons.mpr ⟨empty, allEmpty⟩, absent⟩
      · rw [if_neg empty] at finite ⊢
        exact Or.inl ⟨member, List.mem_cons_self, hasExpression_ofNode references first finite⟩

theorem hasEntries_ofProperties (references : ExpressesReferences arena reference) :
    ∀ {properties : List Property}, (∀ property ∈ properties, property.type.IsInhabitable) →
      (∀ value ∈ literalsOfEntries (ofProperties reference properties), value.IsFinite) →
      TypeNode.HasEntries arena properties (entryCodes (ofProperties reference properties))
  | [], _, _ => .nil
  | ⟨name, type, optional⟩ :: rest, each, finite => by
      obtain ⟨first, others⟩ := List.forall_mem_cons.mp each
      rw [ofProperties] at finite ⊢
      obtain ⟨finiteFirst, finiteOthers⟩ := List.forall_mem_append.mp finite
      have later := hasEntries_ofProperties references others finiteOthers
      cases optional with
      | true => exact .absent type later
      | false =>
          by_cases unwrapped : type.unwrapOptional?.isSome = true
          · rw [unwrapped]
            exact .present false (hasExpression_of_isSome_unwrapOptional? unwrapped) later
          · rw [Bool.false_or, if_neg unwrapped] at finiteFirst ⊢
            exact .present false (hasExpression_ofNode references first finiteFirst) later

theorem hasEntries_ofObjects (references : ExpressesReferences arena reference) :
    ∀ {members : List TypeNode} {properties : List (List Property)},
      members.mapM TypeNode.properties? = some properties →
      (∀ member ∈ members, member.IsInhabitable) →
      (∀ value ∈ literalsOfEntries (ofObjects reference members), value.IsFinite) →
      TypeNode.HasEntries arena properties.flatten (entryCodes (ofObjects reference members))
  | [], _, objects, _, _ => by
      cases objects
      exact .nil
  | member :: rest, properties, objects, each, finite => by
      obtain ⟨first, others⟩ := List.forall_mem_cons.mp each
      rw [mapM_eq_some_iff] at objects
      cases objects with
      | @cons _ own _ lists here there =>
          cases member with
          | object inner name =>
              obtain rfl := Option.some.inj here
              cases first with
              | object _ eachOwn =>
                  rw [ofObjects, literalsOfEntries_append] at finite
                  obtain ⟨finiteOwn, finiteOthers⟩ := List.forall_mem_append.mp finite
                  rw [ofObjects, entryCodes_append, List.flatten_cons]
                  exact hasEntries_append (hasEntries_ofProperties references eachOwn finiteOwn)
                    (hasEntries_ofObjects references (mapM_eq_some_iff.mpr there) others finiteOthers)
          | _ => cases here

end

end Synthesis

/-! ## Declarations -/

section Declarations

variable {arena : Keyed Declaration}

/-- Following the declarations of names gives expressions of them, circles included. -/
theorem hasExpression_ofReference
    (declared : ∀ name target, arena.get? name = some target → target.type.IsInhabitable)
    (unvisited : List String) : ExpressesReferences arena (ofReference arena unvisited) := by
  intro name finite
  by_cases followed : ∃ target, arena.get? name = some target ∧ target.hasStore = false ∧
      name ∈ unvisited
  · obtain ⟨target, found, storeless, fresh⟩ := followed
    rw [ofReference_followed found storeless fresh] at finite ⊢
    have others := hasExpression_ofReference declared (unvisited.erase name)
    exact .declared found (hasExpression_ofNode others (declared name target found) finite)
  · rw [ofReference_settled (fun target found storeless there =>
      followed ⟨target, found, storeless, there⟩)]
    exact .constant name
termination_by unvisited.length
decreasing_by
  have shorter := List.length_erase_of_mem fresh
  have positive := List.length_pos_of_mem fresh
  omega

/-- The initial value of a required field is an expression of its type, if the type and the declared
types have values at all and no number that it writes is infinite or no number. -/
theorem hasExpression_ofField {node : TypeNode}
    (declared : ∀ name target, arena.get? name = some target → target.type.IsInhabitable)
    (inhabitable : node.IsInhabitable) (finite : (ofField arena false (some node)).IsFinite) :
    node.HasExpression arena (ofField arena false (some node)).code :=
  hasExpression_ofNode (hasExpression_ofReference declared arena.keys) inhabitable finite

/-- Folders that lie in folders, under two names, without a store. -/
def folderArena : Keyed Declaration :=
  [("Folder", ⟨"Folder", .object
      [⟨"name", .primitive "string", false⟩, ⟨"parent", .reference "Parent", false⟩] none,
      ["Parent"], false⟩),
    ("Parent", ⟨"Parent", .reference "Folder", ["Folder"], false⟩)]

theorem ofField_folder : ofField folderArena false (some (.reference "Folder")) =
    .object [("name", .builtin "''"), ("parent", .constant "Folder")] := by
  have folder : folderArena.get? "Folder" = some _ := rfl
  have parent : folderArena.get? "Parent" = some _ := rfl
  have visited : ofReference folderArena [] "Folder" = .constant "Folder" :=
    ofReference_settled (fun _ _ _ there => nomatch there)
  change ofReference folderArena ["Folder", "Parent"] "Folder" = _
  rw [ofReference_followed folder rfl (by decide)]
  change Initial.object [_, ("parent", ofReference folderArena ["Parent"] "Parent")] = _
  rw [ofReference_followed parent rfl (by decide)]
  change Initial.object [_, ("parent", ofReference folderArena [] "Folder")] = _
  rw [visited]
  rfl

/-- A folder without a parent of its own starts with the constant of its own name. -/
theorem folder_hasExpression :
    (∀ name target, folderArena.get? name = some target → target.type.IsInhabitable) ∧
    (ofField folderArena false (some (.reference "Folder"))).IsFinite ∧
    (TypeNode.reference "Folder").HasExpression folderArena
      r"{ name: '', parent: defaultFolderState }" := by
  have declared : ∀ name target, folderArena.get? name = some target →
      target.type.IsInhabitable := by
    intro name target found
    have member := Keyed.mem_of_get? found
    simp only [folderArena, List.mem_cons, Prod.mk.injEq, List.not_mem_nil, or_false] at member
    rcases member with ⟨_, rfl⟩ | ⟨_, rfl⟩
    · refine .object none ?_
      simp [TypeNode.IsInhabitable.reference, TypeNode.IsInhabitable.primitive]
    · exact .reference "Folder"
  have finite : (ofField folderArena false (some (.reference "Folder"))).IsFinite := by
    rw [ofField_folder]
    intro value listed
    cases listed
  have written := hasExpression_ofField declared (.reference "Folder") finite
  rw [ofField_folder] at written
  exact ⟨declared, finite, written⟩

/-- The initial value of an infinite literal is no expression for it. -/
theorem infinite_literal_no_expression :
    (TypeNode.literal (.float (.infinity false))).IsInhabitable ∧
    (ofField [] false (some (.literal (.float (.infinity false))))).code = "inf" ∧
    ¬ (TypeNode.literal (.float (.infinity false))).HasExpression [] "inf" := by
  refine ⟨.literal _, rfl, fun written => ?_⟩
  cases written with
  | literal written => exact Scalar.isWrittenAs_code_iff.mp written

end Declarations

end Initial

end TypeScaffold
