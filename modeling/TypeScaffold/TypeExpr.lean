import TypeScaffold.Model.Resolve
import TypeScaffold.Naming

/-!
# Type expressions

The types of the generated stores. A reference to a declaration that has a store, or to a name that
is not declared, is the state of that store.
-/

namespace TypeScaffold

/-- A named part of an object type; the mark says that it may be missing. -/
structure SlotOf (T : Type) where
  name : String
  optional : Bool
  type : T

/-- A type as it is written. -/
inductive TypeExpr where
  | named (name : String)
  | literal (value : Scalar)
  | array (element : TypeExpr)
  | tuple (elements : List TypeExpr)
  /-- Alternatives; there is at least one. -/
  | union (members : List TypeExpr)
  /-- Types that hold together; there is at least one. -/
  | intersection (members : List TypeExpr)
  | object (slots : List (SlotOf TypeExpr))
  | record (key value : TypeExpr)
  /-- A function of which nothing is known. -/
  | callback
  | parenthesized (inner : TypeExpr)

instance : Inhabited TypeExpr :=
  ⟨.callback⟩

/-- A part of an object type. -/
abbrev Slot := SlotOf TypeExpr

namespace TypeExpr

mutual

/-- The source text of a type. -/
def code : TypeExpr → String
  | .named name => name
  | .literal value => value.code
  | .array element => code element ++ "[]"
  | .tuple elements => "[" ++ ", ".intercalate (codes elements) ++ "]"
  | .union members => " | ".intercalate (codes members)
  | .intersection members => " & ".intercalate (codes members)
  | .object [] => r"{}"
  | .object (slot :: slots) => r"{ " ++ "; ".intercalate (slotCodes (slot :: slots)) ++ r" }"
  | .record key value => "Record<" ++ code key ++ ", " ++ code value ++ ">"
  | .callback => "(() => void)"
  | .parenthesized inner => "(" ++ code inner ++ ")"
termination_by structural type => type

/-- The source texts of types. -/
def codes : List TypeExpr → List String
  | [] => []
  | type :: rest => code type :: codes rest
termination_by structural types => types

/-- The source texts of the parts of an object. -/
def slotCodes : List (SlotOf TypeExpr) → List String
  | [] => []
  | ⟨name, optional, type⟩ :: rest =>
      (name ++ (if optional then "?" else "") ++ ": " ++ code type) :: slotCodes rest
termination_by structural slots => slots

end

/-- The type of which nothing is known. -/
def unknown : TypeExpr :=
  .named "unknown"

/-- The alternatives of a union; without any there is no value. -/
def ofAlternatives : List TypeExpr → TypeExpr
  | [] => .named "never"
  | members => .union members

def ofReference (arena : Keyed Declaration) (name : String) : TypeExpr :=
  match arena.get? name with
  | none => .named (Naming.state name)
  | some target => .named (if target.hasStore then Naming.state name else name)

/-- Whether a type is put in parentheses before it becomes the element of an array. -/
def groupedAsElement : TypeNode → Bool
  | .union _ | .intersection _ | .function => true
  | _ => false

mutual

/-- The type expression of a type. -/
def ofNode (arena : Keyed Declaration) : TypeNode → TypeExpr
  | .primitive name => .named (if name = "date" then "Date" else name)
  | .literal value => .literal value
  | .array none => .array unknown
  | .array (some element) =>
      let type := ofNode arena element
      .array (if groupedAsElement element then .parenthesized type else type)
  | .tuple elements => .tuple (ofNodes arena elements)
  | .union members => ofAlternatives (ofNodes arena members)
  | .intersection [] => unknown
  | .intersection (member :: rest) => .intersection (ofNode arena member :: ofNodes arena rest)
  | .object properties _ => .object (ofProperties arena properties)
  | .reference name => ofReference arena name
  | .record (some key) (some value) => .record (ofNode arena key) (ofNode arena value)
  | .record _ _ => .record (.named "string") unknown
  | .enumeration members _ =>
      ofAlternatives (members.map (fun member => .literal member.value.scalar))
  | .function => .callback
  | .unknown _ => unknown
termination_by structural node => node

def ofNodes (arena : Keyed Declaration) : List TypeNode → List TypeExpr
  | [] => []
  | node :: rest => ofNode arena node :: ofNodes arena rest
termination_by structural nodes => nodes

/-- The parts for properties in order. An optional type is written by the mark and without
`undefined`. -/
def ofProperties (arena : Keyed Declaration) : List Property → List (SlotOf TypeExpr)
  | [] => []
  | ⟨name, type, optional⟩ :: rest =>
      (match type with
      | .union members =>
          match TypeNode.optionalCore? members (ofNodes arena members) with
          | some core => ⟨name, true, core⟩
          | none => ⟨name, optional, ofAlternatives (ofNodes arena members)⟩
      | type => ⟨name, optional, ofNode arena type⟩) :: ofProperties arena rest
termination_by structural properties => properties

end

/-- The type expression of a type that may not be known. -/
def ofOptional (arena : Keyed Declaration) : Option TypeNode → TypeExpr
  | none => unknown
  | some node => ofNode arena node

end TypeExpr

/-- The part that a property becomes in a state or an object. -/
def Slot.ofProperty (arena : Keyed Declaration) (property : Property) : Slot :=
  ⟨property.name, property.isOptional, TypeExpr.ofNode arena property.type.withoutUndefined⟩

end TypeScaffold
