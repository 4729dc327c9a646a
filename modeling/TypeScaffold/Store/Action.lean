import TypeScaffold.Initial
import TypeScaffold.Model.Merging
import TypeScaffold.Text.Casing
import TypeScaffold.TypeExpr

/-!
# Actions of a store

Every field of a store has an action that sets it, and a field that is an array has eight more. Each
action has a signature in the interface of the actions and an implementation in the store.
-/

namespace TypeScaffold

/-- The actions on an array field besides setting it. -/
inductive ArrayAction where
  | prepend
  | append
  | insertAt
  | removeAt
  | removeWhere
  | move
  | updateAt
  | clear
  deriving DecidableEq, Repr

/-- The actions on an array field, in the order in which a store lists them. -/
def ArrayAction.all : List ArrayAction :=
  [.prepend, .append, .insertAt, .removeAt, .removeWhere, .move, .updateAt, .clear]

/-- The action's name for a field. -/
def ArrayAction.member (field : String) (action : ArrayAction) : String :=
  let name := Text.capitalize field
  match action with
  | .prepend => "prepend" ++ name
  | .append => "append" ++ name
  | .insertAt => "insert" ++ name ++ "At"
  | .removeAt => "remove" ++ name ++ "At"
  | .removeWhere => "remove" ++ name
  | .move => "move" ++ name
  | .updateAt => "update" ++ name ++ "At"
  | .clear => "clear" ++ name

/-- The name of the action that sets a field. -/
def setMember (field : String) : String :=
  "set" ++ Text.capitalize field

/-- A member of the interface of the actions. -/
structure Signature where
  member : String
  type : String
  deriving DecidableEq, Repr

/-- An action as the store implements it: its first line follows the name, the others stand
below. -/
structure Method where
  member : String
  head : String
  tail : List String
  deriving DecidableEq, Repr

/-- An array field as its actions see it: its name, the type of its items, whether an update is
merged into the item, and the expression for the array at hand. -/
structure ArrayField where
  name : String
  item : TypeExpr
  merges : Bool
  current : String

/-- The array field of a resolved property, given the type of its items. An array that may be
missing or null counts as empty. -/
def ArrayField.ofProperty (arena : Keyed Declaration) (property : ResolvedProperty)
    (element : Option TypeNode) : ArrayField where
  name := property.name
  item := TypeExpr.ofOptional arena element
  merges := element.elim false (TypeNode.merges arena)
  current :=
    if property.optional || property.nullable then
      "(state." ++ property.name ++ " ?? [])"
    else
      "state." ++ property.name

namespace ArrayAction

def type (field : ArrayField) (action : ArrayAction) : String :=
  let item := field.item.code
  match action with
  | .prepend | .append => "(item: " ++ item ++ ") => void"
  | .insertAt => "(index: number, item: " ++ item ++ ") => void"
  | .removeAt => "(index: number) => void"
  | .removeWhere => "(predicate: (item: " ++ item ++ ", index: number) => boolean) => void"
  | .move => "(fromIndex: number, toIndex: number) => void"
  | .updateAt =>
      let update := if field.merges then "Partial<" ++ item ++ ">" else item
      "(index: number, item: " ++ update ++ " | ((item: " ++ item ++ ") => " ++ item ++ ")) => void"
  | .clear => "() => void"

def signature (field : ArrayField) (action : ArrayAction) : Signature :=
  ⟨action.member field.name, action.type field⟩

/-- The line that copies the array at hand. -/
def copyLine (field : ArrayField) : String :=
  r"  const next = [..." ++ field.current ++ "]"

/-- The line that makes the copy the new array. -/
def returnLine (field : ArrayField) : String :=
  r"  return { " ++ field.name ++ r": next }"

def method (field : ArrayField) (action : ArrayAction) : Method :=
  let member := action.member field.name
  let name := field.name
  let current := field.current
  match action with
  | .prepend =>
      ⟨member, r"(item) => set((state) => ({ " ++ name ++ ": [item, ..." ++ current ++ r"] }))", []⟩
  | .append =>
      ⟨member, r"(item) => set((state) => ({ " ++ name ++ ": [..." ++ current ++ r", item] }))", []⟩
  | .insertAt =>
      ⟨member, r"(index, item) => set((state) => {",
        [copyLine field, "  next.splice(index, 0, item)", returnLine field, r"})"]⟩
  | .removeAt =>
      ⟨member, r"(index) => set((state) => ({",
        ["  " ++ name ++ ": " ++ current ++ ".filter((_, i) => i !== index),", r"}))"]⟩
  | .removeWhere =>
      ⟨member, r"(predicate) => set((state) => ({",
        ["  " ++ name ++ ": " ++ current ++ ".filter((item, index) => !predicate(item, index)),",
          r"}))"]⟩
  | .move =>
      ⟨member, r"(fromIndex, toIndex) => set((state) => {",
        [copyLine field, "  const [item] = next.splice(fromIndex, 1)",
          "  next.splice(toIndex, 0, item)", returnLine field, r"})"]⟩
  | .updateAt =>
      let assignment :=
        if field.merges then
          ["  const current = next[index]", "  next[index] = typeof update === 'function'",
            "    ? update(current)", r"    : { ...current, ...update }"]
        else
          ["  next[index] = typeof update === 'function' ? update(next[index]) : update"]
      ⟨member, r"(index, update) => set((state) => {",
        copyLine field :: assignment ++ [returnLine field, r"})"]⟩
  | .clear => ⟨member, r"() => set({ " ++ name ++ r": [] })", []⟩

end ArrayAction

end TypeScaffold
