import TypeScaffold.Model.Basic

/-!
# Optional and nullable types

`T | undefined` is an optional `T`, and `T | null` a nullable `T`. Only unions of exactly two
members count, in either order. Every generated artifact reads a property through
`Property.resolve`.
-/

namespace TypeScaffold

/-- Of two members exactly one of which passes the test, the image of the other. -/
def companion? {α β : Type} (test : α → Bool) : List α → List β → Option β
  | [first, second], [firstImage, secondImage] =>
      if test first then
        if test second then none else some secondImage
      else
        if test second then some firstImage else none
  | _, _ => none

namespace TypeNode

def isUndefined : TypeNode → Bool :=
  isPrimitive "undefined"

def isNull : TypeNode → Bool :=
  isPrimitive "null"

/-- Whether the type is `null` or `undefined`. -/
def isEmptyValue (node : TypeNode) : Bool :=
  node.isNull || node.isUndefined

/-- Of the images of a union's members, that of `T` in `T | undefined`. -/
def optionalCore? {β : Type} (members : List TypeNode) (images : List β) : Option β :=
  companion? isUndefined members images

/-- Of the images of a union's members, that of `T` in `T | null`, where `T` is not `undefined`. -/
def nullableCore? {β : Type} (members : List TypeNode) (images : List β) : Option β :=
  if members.any isUndefined then none else companion? isNull members images

/-- The type `T` of `T | undefined`. -/
def unwrapOptional? : TypeNode → Option TypeNode
  | .union members => optionalCore? members members
  | _ => none

/-- The type `T` of `T | null`. -/
def unwrapNullable? : TypeNode → Option TypeNode
  | .union members => nullableCore? members members
  | _ => none

/-- The type without `undefined`, if it is optional, else the type itself. -/
def withoutUndefined (node : TypeNode) : TypeNode :=
  node.unwrapOptional?.getD node

/-- The type without `null`, if it is nullable, else the type itself. -/
def withoutNull (node : TypeNode) : TypeNode :=
  node.unwrapNullable?.getD node

end TypeNode

/-- A property whose type has been freed of `undefined` and `null`. -/
structure ResolvedProperty where
  name : String
  node : TypeNode
  optional : Bool
  nullable : Bool

/-- A property is optional by its mark or by its type. -/
def PropertyOf.isOptional (property : Property) : Bool :=
  property.optional || property.type.unwrapOptional?.isSome

/-- The main type of a property, and whether it is optional or nullable. -/
def PropertyOf.resolve (property : Property) : ResolvedProperty :=
  let present := property.type.withoutUndefined
  ⟨property.name, present.withoutNull, property.isOptional, present.unwrapNullable?.isSome⟩

end TypeScaffold
