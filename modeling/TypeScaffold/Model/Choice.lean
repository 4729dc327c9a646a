import TypeScaffold.Model.Basic

/-!
# Closed choices

Types whose values are listed: unions of text literals and enumerations of texts. The discriminator
of a union of objects is a property that is a literal in every one of them.
-/

namespace TypeScaffold

namespace TypeNode

def textLiteral? : TypeNode → Option String
  | .literal (.text value) => some value
  | _ => none

def isLiteral : TypeNode → Bool
  | .literal _ => true
  | _ => false

/-- The values of all members, if there are any and each has one. -/
def allOf {α β : Type} (value? : α → Option β) : List α → Option (List β)
  | [] => none
  | members => members.mapM value?

/-- The texts of a union of text literals. -/
def textChoices? (members : List TypeNode) : Option (List String) :=
  allOf textLiteral? members

/-- Whether the type is a union of text literals. -/
def isTextChoice : TypeNode → Bool
  | .union members => (textChoices? members).isSome
  | _ => false

/-- The texts that a choice among texts offers. -/
def textOptions? : TypeNode → Option (List String)
  | .union members => textChoices? members
  | .enumeration members _ => allOf (fun member => member.value.text?) members
  | _ => none

/-- The properties, if the type is an object. -/
def properties? : TypeNode → Option (List Property)
  | .object properties _ => some properties
  | _ => none

/-- Whether the first property of the name is a literal. -/
def hasLiteral (name : String) (properties : List Property) : Bool :=
  match properties.find? (fun property => property.name == name) with
  | some property => property.type.isLiteral
  | none => false

/-- The first literal property of the first object that is a literal in all of them. -/
def discriminator? (members : List TypeNode) : Option String :=
  match members.mapM properties? with
  | some (first :: others) =>
      (first.find? (fun property => property.type.isLiteral &&
        (first :: others).all (hasLiteral property.name))).map PropertyOf.name
  | _ => none

end TypeNode

end TypeScaffold
